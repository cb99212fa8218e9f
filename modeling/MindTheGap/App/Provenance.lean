/-
# App.Provenance -- every row and every poll is something somebody asked for

A row of the home page has come a long way: a form was filled in and Add was tapped, the
arrivals came and made a document, a snapshot listed it, and the loop decoded it.  The
form, the document and the row agree on the direction, and on the line and the naptan id
as far as the service answers for what it was asked (`Carried`).  So no interleaving of
pages, answers, deletions and refreshes shows a row, or polls for one, that was neither
there at launch nor asked for (`sourced_of_run`).

The one thing taken on trust is that a snapshot lists documents that were stored, for the
user of the listener, when it was taken (`Truthful`).  It may be old when it arrives.
-/
import MindTheGap.App.SavedStops
import MindTheGap.Theory.Reorder

namespace MindTheGap

open MindTheGap.Theory

set_option autoImplicit false

namespace HomePage

/-- A snapshot handed the page a document that decodes as the stop. -/
def Handed (history : Machine.History HomePage Event) (stop : SavedStop) : Prop :=
  ∃ x ∈ history, ∃ k documents, x.2 = .stopsSnapshot k (.snapshot documents) ∧
    ∃ document ∈ documents, document.decode = some stop

theorem decoded_of_leading {documents : List QueryDocument} {stop : SavedStop}
    (member : stop ∈ leading documents) : ∃ document ∈ documents, document.decode = some stop := by
  induction documents with
  | nil => cases member
  | cons document documents ih =>
      cases decoded : document.decode with
      | none => simp [leading, decoded] at member
      | some first =>
          simp only [leading, decoded, List.mem_cons] at member
          rcases member with rfl | later
          · exact ⟨document, List.mem_cons_self, decoded⟩
          · obtain ⟨other, there, isStop⟩ := ih later
            exact ⟨other, List.mem_cons_of_mem _ there, isStop⟩

/-- Every row and every timer is for a stop that was handed to the page. -/
structure AllHanded (history : Machine.History HomePage Event) (s : HomePage) : Prop where
  rows : ∀ row ∈ s.finalTableArray, ∃ stop, Handed history stop ∧ row = stop.row
  timers : ∀ poll ∈ s.timers, ∃ stop uid, Handed history stop ∧ poll = stop.poll uid

variable {F : Frameworks} {history : Machine.History HomePage Event} {s s' : HomePage} {e : Event}

theorem Handed.later {stop : SavedStop} (handed : Handed history stop) :
    Handed ((s, e) :: history) stop := by
  obtain ⟨x, member, isSnapshot⟩ := handed
  exact ⟨x, List.mem_cons_of_mem _ member, isSnapshot⟩

/-- Steps that list no row and schedule no timer. -/
theorem AllHanded.kept (handed : AllHanded history s)
    (rows : s'.finalTableArray ⊆ s.finalTableArray) (timers : s'.timers = s.timers) :
    AllHanded ((s, e) :: history) s' := by
  refine ⟨fun row member => ?_, fun poll member => ?_⟩
  · obtain ⟨stop, was, isRow⟩ := handed.rows row (rows member)
    exact ⟨stop, was.later, isRow⟩
  · rw [timers] at member
    obtain ⟨stop, uid, was, isPoll⟩ := handed.timers poll member
    exact ⟨stop, uid, was.later, isPoll⟩

theorem AllHanded.step (handed : AllHanded history s) (next : Next F s e s') :
    AllHanded ((s, e) :: history) s' := by
  cases next with
  | refreshData => exact handed.kept (List.nil_subset _) rfl
  | stopsFailed k => exact handed.kept (List.nil_subset _) rfl
  | stopsSnapshot k documents distinct =>
      have now : ∀ stop ∈ leading documents,
          Handed ((s, .stopsSnapshot k (.snapshot documents)) :: history) stop :=
        fun stop member => ⟨_, List.mem_cons_self, k, documents, rfl, decoded_of_leading member⟩
      refine ⟨fun row member => ?_, fun poll member => ?_⟩
      · obtain ⟨stop, isLeading, rfl⟩ := List.mem_map.1 member
        exact ⟨stop, now stop isLeading, rfl⟩
      · rcases List.mem_append.1 member with earlier | new
        · obtain ⟨stop, uid, was, isPoll⟩ := handed.timers poll earlier
          exact ⟨stop, uid, was.later, isPoll⟩
        · cases user : s.currentUser with
          | none => simp [newPolls, user] at new
          | some uid =>
              simp only [newPolls, user, List.mem_map] at new
              obtain ⟨stop, isLeading, rfl⟩ := new
              exact ⟨stop, uid, now stop isLeading, rfl⟩
  | deleted item ref isTapped => exact handed.kept (List.eraseIdx_sublist _ _).subset rfl
  | moved source destination row entry foundRow foundEntry inRows inTimes =>
      exact handed.kept (Reorder.move_perm foundRow inRows).subset rfl
  | _ => exact handed.kept (List.Subset.refl _) rfl

theorem allHanded_of_run (run : (homePage F).Run history s) : AllHanded history s := by
  apply run.invariant (I := AllHanded)
  · rintro s ⟨currentUser, store, rfl⟩
    rw [viewDidLoad, getSavedStops_eq]
    refine ⟨?_, ?_⟩
    · intro row member
      cases member
    · intro poll member
      cases member
  · intro history s e s' _ handed enabled stepped
    exact handed.step (next_of_step F enabled stepped)

end HomePage

namespace App

variable {F : Frameworks} {s : App} {history : Machine.History App Event}

/-- Every delivered snapshot of the stops lists documents that its user had, then or before. -/
def Truthful (history : Machine.History App Event) : Prop :=
  ∀ later s k documents earlier,
    history = later ++ (s, .homePage (.stopsSnapshot k (.snapshot documents))) :: earlier →
    ∃ listener, s.homePage.stopsListeners[k]? = some listener ∧
      ∃ taken ∈ s :: earlier.map Prod.fst, ∀ document ∈ documents,
        taken.stop ⟨listener.uid, document.documentID⟩ = some document.data

/-- The stop of the user was there at launch, or an Add tap asked for it. -/
def Sourced (F : Frameworks) (history : Machine.History App Event) (s : App) (uid : String)
    (stop : SavedStop) : Prop :=
  (∃ fields, (history.origin s).stop ⟨uid, stop.documentID⟩ = some fields ∧
    QueryDocument.decode ⟨stop.documentID, fields⟩ = some stop) ∨
  ∃ k request data, AskedFor history k request ∧ Answered F history k request data ∧
    request.ref = ⟨uid, stop.documentID⟩ ∧ stop.direction = request.direction ∧
    (AddLinePage.Carried request data →
      stop.lineLowerCase = request.line ∧ stop.naptan = request.naptan)

/-- A document written for a request decodes as what the request asked for. -/
theorem decoded_of_stopData {request : StopRequest} {data : List TubeTimes} {stop : SavedStop}
    (decoded : QueryDocument.decode ⟨request.documentID,
      Doc.empty.merge (AddLinePage.stopData request data.head?)⟩ = some stop) :
    stop.direction = request.direction ∧ (AddLinePage.Carried request data →
      stop.lineLowerCase = request.line ∧ stop.naptan = request.naptan) := by
  obtain ⟨-, lowercase, direction, naptan, -⟩ :=
    AddLinePage.stopData_fields request data.head?
  obtain ⟨-, hasId, hasDirection, hasNaptan, -⟩ := QueryDocument.decode_eq_some.1 decoded
  refine ⟨Option.some.inj (hasDirection.symm.trans direction), fun carried => ?_⟩
  obtain ⟨first, isFirst, lineId⟩ := Option.bind_eq_some_iff.1 (lowercase.symm.trans hasId)
  obtain ⟨_, isFirst', naptanId⟩ := Option.bind_eq_some_iff.1 (naptan.symm.trans hasNaptan)
  cases isFirst.symm.trans isFirst'
  obtain ⟨sameLine, sameNaptan⟩ := carried first (List.mem_of_mem_head? isFirst)
  exact ⟨sameLine _ lineId, sameNaptan _ naptanId⟩

/-- What was stored in some state of the run and decodes, was asked for. -/
theorem sourced_of_stored (run : (app F).Run history s) {taken : App}
    (member : taken ∈ s :: history.map Prod.fst) {uid : String} {document : QueryDocument}
    {stop : SavedStop} (stored : taken.stop ⟨uid, document.documentID⟩ = some document.data)
    (decoded : document.decode = some stop) : Sourced F history s uid stop := by
  have named := QueryDocument.decode_documentID decoded
  have reached : ∃ later earlier, history = later ++ earlier ∧ (app F).Run earlier taken ∧
      history.origin s = earlier.origin taken := by
    rcases List.mem_cons.1 member with rfl | earlier
    · exact ⟨[], history, rfl, run, rfl⟩
    · obtain ⟨x, there, rfl⟩ := List.mem_map.1 earlier
      obtain ⟨later, earlier, split, run'⟩ := run.at_mem there
      refine ⟨later ++ [x], earlier, by rw [split]; simp, run', ?_⟩
      rw [split, Machine.History.origin_append]
  obtain ⟨later, earlier, split, run', origin⟩ := reached
  rw [Sourced, origin, named]
  rcases stop_from run' stored with launched | ⟨k, request, data, asked, answered, isRef, fields⟩
  · exact Or.inl ⟨document.data, launched, decoded⟩
  · obtain ⟨x, tap, isAdd⟩ := asked
    obtain ⟨y, answer, isAnswer⟩ := answered
    have sameID : request.documentID = document.documentID := congrArg DocRef.documentID isRef
    have written : QueryDocument.decode ⟨request.documentID,
        Doc.empty.merge (AddLinePage.stopData request data.head?)⟩ = some stop := by
      rw [sameID, ← fields]
      exact decoded
    obtain ⟨direction, carried⟩ := decoded_of_stopData written
    refine Or.inr ⟨k, request, data, ⟨x, ?_, isAdd⟩, ⟨y, ?_, isAnswer⟩, isRef, direction, carried⟩
    · rw [split]
      exact List.mem_append_right _ tap
    · rw [split]
      exact List.mem_append_right _ answer

theorem homePageEvent_snapshot {s : App} {e : Event} {k : Nat} {documents : List QueryDocument}
    (label : s.homePageEvent e = some (.stopsSnapshot k (.snapshot documents))) :
    e = .homePage (.stopsSnapshot k (.snapshot documents)) := by
  cases e with
  | homePage event => rw [Option.some.inj label]
  | addLinePage k' event =>
      rw [homePageEvent] at label
      split at label <;> cases label
  | _ => cases label

/-- A stop that a truthful snapshot handed to the home page. -/
theorem sourced_of_handed (run : (app F).Run history s) (truthful : Truthful history)
    {history' : Machine.History HomePage MindTheGap.Event}
    (matched : List.Forall₂ (fun x y => x.1.HomePageIs y.1 ∧ x.1.homePageEvent x.2 = some y.2)
      (history.filter fun x => (x.1.homePageEvent x.2).isSome) history')
    {stop : SavedStop} (handed : HomePage.Handed history' stop) :
    ∃ uid, Sourced F history s uid stop := by
  obtain ⟨y, member, k, documents, isSnapshot, document, listed, decoded⟩ := handed
  obtain ⟨⟨s₀, e₀⟩, there, -, label⟩ := exists_of_matched matched member
  rw [isSnapshot] at label
  have isEvent := homePageEvent_snapshot label
  subst isEvent
  obtain ⟨later, earlier, split, run'⟩ := run.at_mem (List.mem_filter.1 there).1
  obtain ⟨listener, -, taken, isTaken, stored⟩ := truthful later s₀ k documents earlier split
  refine ⟨listener.uid, sourced_of_stored run ?_ (stored document listed) decoded⟩
  rw [split, List.map_append, List.map_cons]
  exact List.mem_cons_of_mem _ (List.mem_append_right _ isTaken)

/-- **Nothing is shown or polled that nobody asked for.** -/
theorem sourced_of_run (run : (app F).Run history s) (truthful : Truthful history) :
    (∀ row ∈ s.homePage.finalTableArray, ∃ stop uid, row = stop.row ∧
      Sourced F history s uid stop) ∧
    ∀ poll ∈ s.homePage.timers, ∃ stop uid, poll = stop.poll poll.ref.uid ∧
      Sourced F history s uid stop := by
  obtain ⟨history', page, run', isPage, matched⟩ := (homePageOf F).run run
  have isPage' : page = s.homePage.withStops page.store.savedStops := isPage
  have handed := HomePage.allHanded_of_run run'
  rw [isPage'] at handed
  refine ⟨fun row member => ?_, fun poll member => ?_⟩
  · obtain ⟨stop, was, rfl⟩ := handed.rows row member
    obtain ⟨uid, sourced⟩ := sourced_of_handed run truthful matched was
    exact ⟨stop, uid, rfl, sourced⟩
  · obtain ⟨stop, signedIn, was, rfl⟩ := handed.timers poll member
    obtain ⟨uid, sourced⟩ := sourced_of_handed run truthful matched was
    exact ⟨stop, uid, rfl, sourced⟩

/-- What the stop of `saveBank` is decoded as. -/
def bankStop : SavedStop :=
  ⟨"Waterloo & City", "waterloo-city", "Westbound - Platform 7", "940GZZLUBNK",
    "Bank Underground Station", "d"⟩

def isSnapshot : Event → Bool
  | .homePage (.stopsSnapshot _ _) => true
  | _ => false

/-- The snapshot that lists the stop at Bank is handled, right after it was saved. -/
theorem saveBank_listed :
    ∃ history s, (app .reference).Run history s ∧ Truthful history ∧
      s.homePage.finalTableArray = [bankStop.row] := by
  obtain ⟨history, s, run, events, seen⟩ := Machine.exec_reaches (M := app .reference)
    (fun _ s => ((s.stop ⟨"u", "d"⟩).bind fun fields => QueryDocument.decode ⟨"d", fields⟩,
      s.homePage.stopsListeners))
    ⟨some "u", .empty, fun _ => none, [], by simp [Firestore.empty], rfl⟩ saveBank
    (some bankStop, [⟨"u", false⟩, ⟨"u", false⟩]) (by decide)
  rw [Prod.mk.injEq] at seen
  obtain ⟨stored, listeners⟩ := seen
  obtain ⟨fields, there, decoded⟩ := Option.bind_eq_some_iff.1 stored
  have enabled : (app .reference).Enabled s
      (.homePage (.stopsSnapshot 1 (.snapshot [⟨"d", fields⟩]))) := by
    refine ⟨rfl, ?_, by simp⟩
    rw [listeners]
    decide
  refine ⟨_, _, .step run enabled rfl, ?_, ?_⟩
  · intro later s₀ k documents earlier split
    cases later with
    | nil =>
        cases split
        refine ⟨⟨"u", false⟩, by rw [listeners]; rfl, s, List.mem_cons_self, ?_⟩
        intro document member
        cases List.mem_singleton.1 member
        exact there
    | cons x later =>
        -- no other step of the run handled a snapshot
        have inside : (.homePage (.stopsSnapshot k (.snapshot documents)) : Event) ∈ saveBank := by
          rw [List.cons_append, List.cons.injEq] at split
          rw [← List.mem_reverse, ← events, split.2, List.map_append]
          exact List.mem_append_right _ List.mem_cons_self
        have other : ∀ e ∈ saveBank, isSnapshot e = false := by decide
        cases other _ inside
  · show (HomePage.savedStopsListener _ _ (.snapshot [⟨"d", fields⟩])).finalTableArray = _
    rw [HomePage.savedStopsListener_snapshot]
    simp [leading, decoded]

theorem sourced_of_run_listed :
    ∃ history s, (app .reference).Run history s ∧
      s.homePage.finalTableArray = [bankStop.row] ∧
      (∀ row ∈ s.homePage.finalTableArray, ∃ stop uid, row = stop.row ∧
        Sourced .reference history s uid stop) ∧
      ∀ poll ∈ s.homePage.timers, ∃ stop uid, poll = stop.poll poll.ref.uid ∧
        Sourced .reference history s uid stop := by
  obtain ⟨history, s, run, truthful, rows⟩ := saveBank_listed
  exact ⟨history, s, run, rows, sourced_of_run run truthful⟩

end App

end MindTheGap
