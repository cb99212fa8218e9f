/-
# AddLinePage.Effects -- what each step of the add page changes

As for the home page, every function is put in the form of one record update and `Next`
collects them.  `addStop` is the one with an argument: it passes its checks precisely when
the form is `checked`, and then it requests the arrivals of the line and naptan id of that
form.
-/
import MindTheGap.Model.AddLinePage

namespace MindTheGap

open MindTheGap.Theory

set_option autoImplicit false

/-- What `addStop` takes from the page once its checks have passed. -/
structure Form where
  line : String
  naptan : String
  direction : String
deriving DecidableEq, Repr

namespace AddLinePage

/-- The title of the selected direction button. -/
def chosenTitle (s : AddLinePage) : Option String :=
  if s.is1Selected then s.direction1Title
  else if s.is2Selected then s.direction2Title else none

/-- The form `addStop` would take from the page, if its checks pass. -/
def checked (s : AddLinePage) : Option Form := do
  let line ← s.line
  let naptan ← s.naptan
  let title ← s.chosenTitle
  return ⟨line, naptan, title⟩

theorem checked_eq_some {s : AddLinePage} {form : Form} :
    s.checked = some form ↔
      s.line = some form.line ∧ s.naptan = some form.naptan ∧
        s.chosenTitle = some form.direction := by
  simp only [checked, Option.bind_eq_bind, Option.bind_eq_some_iff, Option.pure_def,
    Option.some.injEq]
  constructor
  · rintro ⟨line, isLine, naptan, isNaptan, title, isTitle, rfl⟩
    exact ⟨isLine, isNaptan, isTitle⟩
  · rintro ⟨isLine, isNaptan, isTitle⟩
    exact ⟨_, isLine, _, isNaptan, _, isTitle, rfl⟩

variable (F : Frameworks)

/-- The request `addStop` issues for a form. -/
def newStopRequests (user : Option String) (form : Form) (documentID : String) :
    List StopRequest :=
  match user with
  | none => []
  | some uid =>
      if F.urlBuilds (arrivalsURL form.line form.naptan) then
        [⟨uid, form.line, form.naptan, form.direction, documentID, false⟩]
      else []

/-- An add tap that does not trap either is refused, and then only the effects of the
page change, or takes the checked form and requests its arrivals. -/
theorem addStop_cases {s s' : AddLinePage} {documentID : String}
    (tapped : s.addStop F documentID = some s') :
    (s.checked = none ∧ ∃ message,
      s' = s.ask [.showSpinner, .AlertofError "Error" message, .removeSpinner]) ∨
    ∃ form, s.checked = some form ∧ s' = { s with
      direction := some form.direction
      stopRequests := s.stopRequests ++ newStopRequests F s.currentUser form documentID
      effects := s.effects ++ .showSpinner :: (s.currentUser.map fun _ => .vibrate).toList } := by
  cases isLine : s.line with
  | none =>
      simp only [addStop, ask, isLine, Option.some.injEq] at tapped
      refine Or.inl ⟨by simp [checked, isLine], "A line is needed", ?_⟩
      simp [ask, ← tapped, isLine]
  | some line =>
      cases isNaptan : s.naptan with
      | none =>
          simp only [addStop, ask, isLine, isNaptan, Option.some.injEq] at tapped
          refine Or.inl ⟨by simp [checked, isNaptan], "A station is needed", ?_⟩
          simp [ask, ← tapped, isLine, isNaptan]
      | some naptan =>
          by_cases unselected : s.is1Selected = false ∧ s.is2Selected = false
          · simp only [addStop, ask, isLine, isNaptan, unselected, and_self, if_true,
              Option.some.injEq] at tapped
            refine Or.inl ⟨by simp [checked, chosenTitle, unselected], "Pick a direction", ?_⟩
            simp [ask, ← tapped, isLine, isNaptan, unselected]
          · have title : (if s.is1Selected then s.direction1Title else s.direction2Title) =
                s.chosenTitle := by
              cases one : s.is1Selected <;> cases two : s.is2Selected <;>
                simp_all [chosenTitle]
            simp only [addStop, ask, isLine, isNaptan, unselected, if_false, title] at tapped
            cases isTitle : s.chosenTitle with
            | none => simp [isTitle] at tapped
            | some direction =>
                refine Or.inr ⟨⟨line, naptan, direction⟩, checked_eq_some.2
                  ⟨isLine, isNaptan, isTitle⟩, ?_⟩
                cases user : s.currentUser with
                | none =>
                    simp only [isTitle, user, Option.some.injEq] at tapped
                    simp [← tapped, newStopRequests]
                | some uid =>
                    simp only [isTitle, user, getLineData, Option.some.injEq] at tapped
                    split at tapped <;> rename_i builds <;>
                      simp [← tapped, newStopRequests, builds]

/-- The request the completion of a lookup issues, for whatever id. -/
def newDirectionRequests (line : Option String) (id : String) : List DirectionRequest :=
  match line with
  | none => []
  | some line => if F.urlBuilds (arrivalsURL line id) then [⟨id, line, false⟩] else []

/-- The alert of a lookup whose station is not supported. -/
def unsupportedAlert (line : Option String) (id : String) : List Effect :=
  if line.isSome ∧ id = "unavailable" then
    [.AlertofError "Sorry" "This station isn't supported yet"]
  else []

theorem getDirections_eq (s : AddLinePage) (naptan line : String) :
    s.getDirections F naptan line = { s with directionRequests :=
      s.directionRequests ++ newDirectionRequests F (some line) naptan } := by
  unfold getDirections newDirectionRequests
  split <;> rename_i builds <;> simp [builds]

theorem naptanCompletion_eq (s : AddLinePage) (id : String) :
    s.naptanCompletion F id = { s with
      directionRequests := s.directionRequests ++ newDirectionRequests F s.line id
      naptan := if s.line.isSome ∧ id ≠ "unavailable" then some id else s.naptan
      effects := s.effects ++ unsupportedAlert s.line id } := by
  rcases s with ⟨_, _, _ | line⟩
  · simp [naptanCompletion, newDirectionRequests, unsupportedAlert]
  · simp only [naptanCompletion, getDirections_eq]
    by_cases unsupported : id = "unavailable"
    · simp [unsupportedAlert, ask, unsupported]
    · simp [unsupportedAlert, unsupported]

theorem answerLookup_cases {s s' : AddLinePage} {k : Nat} {document : NaptanDocument}
    (answered : s.answerLookup F k document = some s') :
    ∃ id, document.id = some id ∧ s' = { s with
      lookups := s.lookups.modify k fun lookup => { lookup with answered := true }
      directionRequests := s.directionRequests ++ newDirectionRequests F s.line id
      naptan := if s.line.isSome ∧ id ≠ "unavailable" then some id else s.naptan
      effects := s.effects ++ unsupportedAlert s.line id } := by
  obtain ⟨id, isId, rfl⟩ := Option.map_eq_some_iff.1 answered
  exact ⟨id, isId, naptanCompletion_eq F _ id⟩

theorem answerDirections_eq (s : AddLinePage) (k : Nat) (response : Response TubeDirection) :
    s.answerDirections k response = { s with
      directionRequests :=
        s.directionRequests.modify k fun request => { request with answered := true }
      direction1Title :=
        (response.records.map fun platforms => platformTitle platforms 0).getD s.direction1Title
      direction2Title :=
        (response.records.map fun platforms => platformTitle platforms 1).getD
          s.direction2Title } := by
  cases records : response.records <;> simp [answerDirections, directionsCompletion, records]

theorem answerLineData_cases {s s' : AddLinePage} {k : Nat} {response : Response TubeTimes}
    {request : StopRequest} (issued : s.stopRequests[k]? = some request)
    (answered : s.answerLineData F k response = some s') :
    (response.records = none ∧
      s' = { s with stopRequests := s.stopRequests.set k { request with answered := true } }) ∨
    ∃ times data, response.records = some times ∧ F.sortByTime times = some data ∧
      s' = { s with
        stopRequests := s.stopRequests.set k { request with answered := true }
        store := s.store.setStop request.ref (stopData request data.head?)
        effects := s.effects ++ [.refreshData, .removeSpinner, .popViewController] } := by
  simp only [answerLineData, issued] at answered
  cases records : response.records with
  | none =>
      simp only [records, Option.some.injEq] at answered
      exact Or.inl ⟨rfl, answered.symm⟩
  | some times =>
      simp only [records, Option.map_eq_some_iff] at answered
      obtain ⟨data, sorts, rfl⟩ := answered
      exact Or.inr ⟨times, data, rfl, sorts, rfl⟩

theorem answerLineData_handed {s : AddLinePage} {k : Nat} {response : Response TubeTimes}
    {request : StopRequest} {times data : List TubeTimes}
    (issued : s.stopRequests[k]? = some request) (records : response.records = some times)
    (sorts : F.sortByTime times = some data) :
    s.answerLineData F k response = some { s with
      stopRequests := s.stopRequests.set k { request with answered := true }
      store := s.store.setStop request.ref (stopData request data.head?)
      effects := s.effects ++ [.refreshData, .removeSpinner, .popViewController] } := by
  simp [answerLineData, issued, records, sorts, stopCompletion, ask]

theorem direction1_eq (s : AddLinePage) : s.direction1 = { s with
    is1Selected := !s.is1Selected
    is2Selected := s.is1Selected && s.is2Selected } := by
  cases one : s.is1Selected <;> simp [direction1, one]

theorem direction2_eq (s : AddLinePage) : s.direction2 = { s with
    is2Selected := !s.is2Selected
    is1Selected := s.is2Selected && s.is1Selected } := by
  cases two : s.is2Selected <;> simp [direction2, two]

/-! ## The steps -/

/-- Every step of the page that does not trap, with the state it leaves. -/
inductive Next (s : AddLinePage) : Event → AddLinePage → Prop
  | lineTapped (item : Nat) (name : String) (isName : lines[item]? = some name) :
      Next s (.didSelectItemAt item)
        { s with
          stations := returnArray name
          line := some (returnlineName name) }
  | rowPicked (row : Nat) (name : String) (isName : s.stations[row]? = some name) :
      Next s (.didSelectRow row) { s with lookups := s.lookups ++ [⟨name, false⟩] }
  | lookupAnswered (k : Nat) (document : NaptanDocument) (id : String)
      (asked : k < s.lookups.length) (isId : document.id = some id) :
      Next s (.naptanDocument k document)
        { s with
          lookups := s.lookups.modify k fun lookup => { lookup with answered := true }
          directionRequests := s.directionRequests ++ newDirectionRequests F s.line id
          naptan := if s.line.isSome ∧ id ≠ "unavailable" then some id else s.naptan
          effects := s.effects ++ unsupportedAlert s.line id }
  | directionsAnswered (k : Nat) (response : Response TubeDirection)
      (request : DirectionRequest) (issued : s.directionRequests[k]? = some request) :
      Next s (.directions k response)
        { s with
          directionRequests :=
            s.directionRequests.modify k fun request => { request with answered := true }
          direction1Title :=
            (response.records.map fun platforms => platformTitle platforms 0).getD
              s.direction1Title
          direction2Title :=
            (response.records.map fun platforms => platformTitle platforms 1).getD
              s.direction2Title }
  | direction1 : Next s .direction1
      { s with is1Selected := !s.is1Selected, is2Selected := s.is1Selected && s.is2Selected }
  | direction2 : Next s .direction2
      { s with is2Selected := !s.is2Selected, is1Selected := s.is2Selected && s.is1Selected }
  | addRefused (documentID message : String) (fails : s.checked = none) :
      Next s (.addStop documentID)
        (s.ask [.showSpinner, .AlertofError "Error" message, .removeSpinner])
  | added (documentID : String) (form : Form) (passes : s.checked = some form)
      (absent : ∀ uid ∈ s.currentUser, s.store.savedStops ⟨uid, documentID⟩ = none)
      (unused : ∀ request ∈ s.stopRequests, request.documentID ≠ documentID) :
      Next s (.addStop documentID)
        { s with
          direction := some form.direction
          stopRequests := s.stopRequests ++ newStopRequests F s.currentUser form documentID
          effects := s.effects ++
            .showSpinner :: (s.currentUser.map fun _ => .vibrate).toList }
  | noData (k : Nat) (response : Response TubeTimes) (request : StopRequest)
      (issued : s.stopRequests[k]? = some request) (records : response.records = none) :
      Next s (.lineData k response)
        { s with stopRequests := s.stopRequests.set k { request with answered := true } }
  | saved (k : Nat) (response : Response TubeTimes) (request : StopRequest)
      (times data : List TubeTimes) (issued : s.stopRequests[k]? = some request)
      (records : response.records = some times) (sorts : F.sortByTime times = some data) :
      Next s (.lineData k response)
        { s with
          stopRequests := s.stopRequests.set k { request with answered := true }
          store := s.store.setStop request.ref (stopData request data.head?)
          effects := s.effects ++ [.refreshData, .removeSpinner, .popViewController] }
  | authChanged (uid : Option String) : Next s (.authChanged uid) { s with currentUser := uid }

/-- **What a step can do.** -/
theorem next_of_step {s s' : AddLinePage} {e : Event} (enabled : s.Enabled e)
    (stepped : s.step F e = some s') : Next F s e s' := by
  cases e with
  | didSelectItemAt item =>
      obtain ⟨name, isName, rfl⟩ := Option.map_eq_some_iff.1 stepped
      exact .lineTapped item name isName
  | didSelectRow row =>
      obtain ⟨name, isName, rfl⟩ := Option.map_eq_some_iff.1 stepped
      exact .rowPicked row name isName
  | naptanDocument k document =>
      obtain ⟨lookup, found, -⟩ := Option.map_eq_some_iff.1 enabled
      obtain ⟨id, isId, rfl⟩ := answerLookup_cases F stepped
      exact .lookupAnswered k document id (List.getElem?_eq_some_iff.1 found).1 isId
  | directions k response =>
      obtain ⟨request, issued, -⟩ := Option.map_eq_some_iff.1 enabled
      rw [step, answerDirections_eq, Option.some.injEq] at stepped
      subst stepped
      exact .directionsAnswered k response request issued
  | direction1 =>
      rw [step, direction1_eq, Option.some.injEq] at stepped
      subst stepped
      exact .direction1
  | direction2 =>
      rw [step, direction2_eq, Option.some.injEq] at stepped
      subst stepped
      exact .direction2
  | addStop documentID =>
      rcases addStop_cases F stepped with ⟨fails, message, rfl⟩ | ⟨form, passes, rfl⟩
      · exact .addRefused documentID message fails
      · refine .added documentID form passes (fun uid user => ?_) enabled.2
        exact Option.isNone_iff_eq_none.1 (enabled.1 uid user)
  | lineData k response =>
      obtain ⟨request, issued, -⟩ := Option.map_eq_some_iff.1 enabled
      rcases answerLineData_cases F issued stepped with
        ⟨records, rfl⟩ | ⟨times, data, records, sorts, rfl⟩
      · exact .noData k response request issued records
      · exact .saved k response request times data issued records sorts
  | authChanged uid =>
      cases stepped
      exact .authChanged uid

/-- Waterloo & City, its first station, the station's answer, and a direction. -/
def pickBank : List Event :=
  [.didSelectItemAt 7, .didSelectRow 0, .naptanDocument 0 (.found (some "940GZZLUBNK")),
    .direction1]

end AddLinePage

end MindTheGap
