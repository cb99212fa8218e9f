/-
# AddLinePage.Picked -- whether the naptan id is that of the station picked last

A line tap changes the line and the stations of the picker; it leaves the naptan id.  A
pick starts a lookup, and its answer sets the id whenever it comes, unless no line is
selected or the station is not supported (`taken`).  When "Add" passes its checks, the id
should be the one looked up for the last pick, made since the last line tap
(`SavesThePick`).

The page's id is that of the answer taken last, whoever asked for it.  `savesThePick_iff`
is the exact condition: the last selection is a pick, and the answer taken last is its own
or brought the same id.
-/
import MindTheGap.AddLinePage.Effects

namespace MindTheGap

open MindTheGap.Theory

set_option autoImplicit false

namespace AddLinePage

/-- What the user selects: a line, or a station by the lookup it starts. -/
inductive Selection where
  | line
  | station (lookup : Nat) (name : String)
deriving DecidableEq, Repr

def selection (s : AddLinePage) : Event → Option Selection
  | .didSelectItemAt _ => some .line
  | .didSelectRow row => s.stations[row]?.map (Selection.station s.lookups.length)
  | _ => none

/-- The lookup a step answers, and with which id. -/
def answer : Event → Option (Nat × String)
  | .naptanDocument lookup document => document.id.map fun id => (lookup, id)
  | _ => none

/-- An answer that sets the naptan id of the page. -/
def taken (s : AddLinePage) (e : Event) : Option (Nat × String) :=
  (answer e).filter fun answered => s.line.isSome && answered.2 ≠ "unavailable"

section

variable (history : Machine.History AddLinePage Event)

def lastSelection : Option Selection := history.findSome? fun x => x.1.selection x.2

/-- The answers that came, newest first. -/
def answers : List (Nat × String) := history.filterMap fun x => answer x.2

/-- The answers that were taken, newest first. -/
def takenAnswers : List (Nat × String) := history.filterMap fun x => x.1.taken x.2

/-- The naptan id of the form was looked up for the last station picked, which is one of
the current picker's, and it is supported. -/
def SavesThePick (s : AddLinePage) (form : Form) : Prop :=
  ∃ lookup name, lastSelection history = some (.station lookup name) ∧ name ∈ s.stations ∧
    (lookup, form.naptan) ∈ answers history ∧ form.naptan ≠ "unavailable"

/-- The last selection is a pick, and the answer taken last is its own or brought the same
id. -/
def PickTakenLast : Prop :=
  ∃ lookup name newest, lastSelection history = some (.station lookup name) ∧
    (takenAnswers history).head? = some newest ∧
    (newest.1 = lookup ∨ (lookup, newest.2) ∈ takenAnswers history)

/-- What every run keeps. -/
structure Followed (s : AddLinePage) : Prop where
  naptan : s.naptan = (takenAnswers history).head?.map Prod.snd
  station : ∀ lookup name, lastSelection history = some (.station lookup name) →
    name ∈ s.stations
  issued : ∀ answered ∈ answers history, answered.1 < s.lookups.length
  /-- The line cannot have been selected after the last pick. -/
  taken : ∀ lookup name id, lastSelection history = some (.station lookup name) →
    (lookup, id) ∈ answers history → id ≠ "unavailable" → s.line.isSome = true →
    (lookup, id) ∈ takenAnswers history

end

variable {history : Machine.History AddLinePage Event} {s s' : AddLinePage} {e : Event}

theorem takenAnswers_cons :
    takenAnswers ((s, e) :: history) = (s.taken e).toList ++ takenAnswers history :=
  Machine.History.filterMap_cons _ _ _

theorem mem_takenAnswers {answered : Nat × String} (member : answered ∈ takenAnswers history) :
    answered ∈ answers history ∧ answered.2 ≠ "unavailable" := by
  obtain ⟨x, there, isTaken⟩ := List.mem_filterMap.1 member
  obtain ⟨isAnswer, supported⟩ := Option.filter_eq_some_iff.1 isTaken
  exact ⟨List.mem_filterMap.2 ⟨x, there, isAnswer⟩, by simp at supported; exact supported.2⟩

/-- Steps that neither select nor answer a lookup. -/
theorem Followed.frame (followed : Followed history s) (noSelection : s.selection e = none)
    (noAnswer : answer e = none) (stations : s'.stations = s.stations) (line : s'.line = s.line)
    (naptan : s'.naptan = s.naptan) (lookups : s'.lookups = s.lookups) :
    Followed ((s, e) :: history) s' := by
  have last : lastSelection ((s, e) :: history) = lastSelection history := by
    simp [lastSelection, noSelection]
  have same : answers ((s, e) :: history) = answers history := by
    simp [answers, noAnswer]
  have sameTaken : takenAnswers ((s, e) :: history) = takenAnswers history := by
    simp [takenAnswers, AddLinePage.taken, noAnswer]
  refine ⟨?_, ?_, ?_, ?_⟩
  · rw [naptan, sameTaken]
    exact followed.naptan
  · rw [last, stations]
    exact followed.station
  · rw [same, lookups]
    exact followed.issued
  · rw [last, same, sameTaken, line]
    exact followed.taken

theorem Followed.step {F : Frameworks} (followed : Followed history s) (next : Next F s e s') :
    Followed ((s, e) :: history) s' := by
  cases next with
  | lineTapped item name isName =>
      refine ⟨followed.naptan, ?_, followed.issued, ?_⟩
      · intro lookup name' last
        cases last
      · intro lookup name' id last
        cases last
  | rowPicked row name isName =>
      have last : lastSelection ((s, .didSelectRow row) :: history) =
          some (.station s.lookups.length name) := by
        simp [lastSelection, selection, isName]
      refine ⟨followed.naptan, ?_, ?_, ?_⟩
      · intro lookup name' isLast
        rw [last] at isLast
        cases isLast
        exact List.mem_of_getElem? isName
      · intro answered member
        have earlier := followed.issued answered member
        simp only [List.length_append, List.length_singleton]
        omega
      · intro lookup name' id isLast member
        -- its own lookup has just been issued
        rw [last] at isLast
        cases isLast
        have earlier := followed.issued _ member
        omega
  | lookupAnswered k document id asked isId =>
      have answered : answers ((s, .naptanDocument k document) :: history) =
          (k, id) :: answers history := by
        simp [answers, answer, isId]
      refine ⟨?_, followed.station, ?_, ?_⟩
      · by_cases sets : s.line.isSome = true ∧ id ≠ "unavailable"
        · simp [takenAnswers, AddLinePage.taken, answer, isId, sets]
        · have ignored : s.taken (.naptanDocument k document) = none := by
            simpa [AddLinePage.taken, answer, isId, Option.filter] using sets
          rw [if_neg sets, followed.naptan, takenAnswers_cons, ignored]
          rfl
      · rw [answered]
        simpa using ⟨asked, fun a b => followed.issued (a, b)⟩
      · intro lookup name id' last member supported selected
        rw [answered, List.mem_cons] at member
        rw [takenAnswers_cons]
        rcases member with own | earlier
        · cases own
          have isLine : s.line.isSome = true := selected
          have isTaken : s.taken (.naptanDocument k document) = some (k, id) := by
            simp [AddLinePage.taken, answer, isId, isLine, supported]
          rw [isTaken]
          exact List.mem_cons_self
        · exact List.mem_append_right _
            (followed.taken lookup name id' last earlier supported selected)
  | _ => exact followed.frame rfl rfl rfl rfl rfl rfl

theorem followed_of_run {F : Frameworks} (run : (addLinePage F).Run history s) :
    Followed history s := by
  apply run.invariant (I := Followed)
  · rintro s ⟨currentUser, store, rfl⟩
    refine ⟨rfl, ?_, ?_, ?_⟩
    · intro lookup name last
      cases last
    · intro answered member
      cases member
    · intro lookup name id last
      cases last
  · intro history s e s' _ followed enabled stepped
    exact followed.step (next_of_step F enabled stepped)

/-- **When the saved station is the picked one.** -/
theorem savesThePick_iff {F : Frameworks} (run : (addLinePage F).Run history s) {form : Form}
    (passes : s.checked = some form) :
    SavesThePick history s form ↔ PickTakenLast history := by
  have followed := followed_of_run run
  obtain ⟨isLine, isNaptan, -⟩ := checked_eq_some.1 passes
  obtain ⟨newest, isNewest, brought⟩ := Option.map_eq_some_iff.1 (followed.naptan ▸ isNaptan)
  constructor
  · rintro ⟨lookup, name, last, -, answered, supported⟩
    refine ⟨lookup, name, newest, last, isNewest, Or.inr ?_⟩
    rw [brought]
    exact followed.taken lookup name _ last answered supported (by rw [isLine]; rfl)
  · rintro ⟨lookup, name, newest', last, isNewest', own⟩
    rw [isNewest, Option.some.injEq] at isNewest'
    subst isNewest'
    have member : (lookup, newest.2) ∈ takenAnswers history := by
      rcases own with rfl | same
      · exact List.mem_of_mem_head? isNewest
      · exact same
    obtain ⟨answered, supported⟩ := mem_takenAnswers member
    rw [brought] at answered supported
    exact ⟨lookup, name, last, followed.station lookup name last, answered, supported⟩

theorem savesThePick_iff_bank :
    ∃ history s, (addLinePage .reference).Run history s ∧
      s.checked = some ⟨"waterloo-city", "940GZZLUBNK", "Choose a Direction"⟩ ∧
      (SavesThePick history s ⟨"waterloo-city", "940GZZLUBNK", "Choose a Direction"⟩ ↔
        PickTakenLast history) := by
  obtain ⟨history, s, run, -, passes⟩ := Machine.exec_reaches (M := addLinePage .reference)
    (fun _ s => s.checked) ⟨some "u", .empty, rfl⟩ pickBank
    (some ⟨"waterloo-city", "940GZZLUBNK", "Choose a Direction"⟩) (by decide)
  exact ⟨history, s, run, passes, savesThePick_iff run passes⟩

/-- The refuting pole: after a tap on another line, Bank is saved on the Victoria line. -/
theorem station_of_another_line :
    ∃ history s form, (addLinePage .reference).Run history s ∧ s.checked = some form ∧
      ¬ SavesThePick history s form := by
  obtain ⟨history, s, run, -, seen⟩ := Machine.exec_reaches (M := addLinePage .reference)
    (fun history s => (s.checked, lastSelection history))
    ⟨some "u", .empty, rfl⟩ (pickBank ++ [.didSelectItemAt 8])
    (some ⟨"victoria", "940GZZLUBNK", "Choose a Direction"⟩, some .line) (by decide)
  rw [Prod.mk.injEq] at seen
  refine ⟨history, s, _, run, seen.1, ?_⟩
  rintro ⟨lookup, name, last, -⟩
  rw [seen.2] at last
  cases last

end AddLinePage

end MindTheGap
