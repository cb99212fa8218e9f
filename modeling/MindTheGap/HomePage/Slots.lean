/-
# HomePage.Slots -- the shape of every times document

The document below a stop is written field by field, by any number of polls of the stop
that overlap as they like, and read back by field name.  Its shape is the same all along:
a time and a destination in each slot from 0 up to some count, and none above
(`Shaped`).  For a train that lacks one of them the text `"error"` stands in its place and
counts as it.  The number of slots is not that of the last poll but of the longest pass
since the document was last deleted (`slotsFilled`): merge writes never take a slot back.
-/
import MindTheGap.HomePage.Writes

namespace MindTheGap

open MindTheGap.Theory

set_option autoImplicit false

/-- A value that `"\(count)"` is written with: a time, or the text `"error"` of a train
without one. -/
def IsTime (value : Value) : Prop := value.asInt.isSome = true ∨ value = .string "error"

/-- A value that `"\(count) destination"` is written with: a text, which is `"error"` for a
train without a destination. -/
def IsDestination (value : Value) : Prop := value.asString.isSome = true

theorem isTime_timeValue (time : TubeTimes) : IsTime (timeValue time) := by
  unfold timeValue
  split
  · exact Or.inl rfl
  · exact Or.inr rfl

/-- Times and destinations in the slots below `slots`, and in no others. -/
structure Shaped (slots : Nat) (document : Option Fields) : Prop where
  times : (document.getD Doc.empty).Filled slotKey IsTime slots
  destinations : (document.getD Doc.empty).Filled destinationKey IsDestination slots

/-- No document has no slots. -/
theorem shaped_none : Shaped 0 none := by
  constructor <;>
  · intro i
    simp [Doc.empty]

/-- What a pass leaves is shaped, whatever pass it was. -/
theorem Shaped.pass {slots : Nat} {document : Option Fields} (shaped : Shaped slots document)
    {fetch : Fetch} {direction : String} {sorted : List TubeTimes} {writes : List Data}
    (ran : fetch.pass direction sorted = some writes) :
    Shaped (max slots writes.length) (setDataAll document writes) := by
  have length := Doc.length_slotted fetch.record 0 (sorted.filter (onPlatform direction))
  have fields : ∀ key, ((setDataAll document writes).getD Doc.empty) key =
      (document.getD Doc.empty).mergeAll writes key := by
    intro key
    rw [← setDataAll_field]
    cases setDataAll document writes <;> rfl
  rw [← Fetch.pass_slots ran] at length
  constructor
  · intro i
    rw [fields, length, Fetch.pass_slots ran]
    exact shaped.times.mergeAll fetch.record_slotKey isTime_timeValue _ i
  · intro i
    rw [fields, length, Fetch.pass_slots ran]
    exact shaped.destinations.mergeAll fetch.record_destinationKey (fun _ => rfl) _ i

/-- The listener reads a destination of each of the first three filled slots. -/
theorem Shaped.readTimes_destination {slots : Nat} {document : Option Fields}
    (shaped : Shaped slots document) {i : Nat} (slot : i < 3) :
    ((readTimes document).destination i).isSome = true ↔ i < slots := by
  rw [(readTimes_slot document slot).2, readString_eq, ← shaped.destinations i,
    Option.isSome_iff_exists]
  simp only [Option.bind_eq_some_iff, IsDestination, Option.isSome_iff_exists]
  constructor
  · rintro ⟨text, value, there, isText⟩
    exact ⟨value, there, text, isText⟩
  · rintro ⟨value, there, text, isText⟩
    exact ⟨text, value, there, isText⟩

namespace HomePage

/-- The slots of a times document after a run, when it had `slots` at first. -/
def slotsFilled (F : Frameworks) (ref : DocRef) (slots : Nat) :
    Machine.History HomePage Event → Nat
  | [] => slots
  | (s, e) :: history =>
      if s.deletes ref e then 0
      else max (slotsFilled F ref slots history) (s.written F e ref).length

variable {F : Frameworks} {history : Machine.History HomePage Event} {s s' : HomePage} {e : Event}
  {ref : DocRef} {slots : Nat}

theorem shaped_step (next : Next F s e s') (shaped : Shaped slots (s.store.arrivalTimes ref)) :
    Shaped (if s.deletes ref e then 0 else max slots (s.written F e ref).length)
      (s'.store.arrivalTimes ref) := by
  rw [arrivalTimes_step next]
  split
  · exact shaped_none
  · rcases written_inv next ref with ⟨-, nothing⟩ | ⟨request, times, sorted, -, -, -, ran⟩
    · rw [nothing, List.length_nil, Nat.max_zero]
      exact shaped
    · exact shaped.pass ran

/-- **Every times document has its shape.** -/
theorem shaped_of_run (run : (homePage F).Run history s)
    (shaped : Shaped slots ((history.origin s).store.arrivalTimes ref)) :
    Shaped (slotsFilled F ref slots history) (s.store.arrivalTimes ref) ∧
      ∀ i < 3, ((readTimes (s.store.arrivalTimes ref)).destination i).isSome = true ↔
        i < slotsFilled F ref slots history := by
  have now : Shaped (slotsFilled F ref slots history) (s.store.arrivalTimes ref) := by
    induction run with
    | start starts => exact shaped
    | step run enabled stepped ih =>
        rw [Machine.History.origin_cons] at shaped
        exact shaped_step (next_of_step F enabled stepped) (ih shaped)
  exact ⟨now, fun i slot => now.readTimes_destination slot⟩

/-- Two trains are due at the first poll of a stop, one at the second. -/
def twoThenOne : List Event :=
  [.stopsSnapshot 0 (.snapshot [sampleDocument "a"]),
    .response 0 (.decoded
      [{ platformName := some "Northbound - Platform 3", timeToStation := some 60 },
        { platformName := some "Northbound - Platform 3", timeToStation := some 300 }]),
    .timerFired 0,
    .response 1 (.decoded
      [{ platformName := some "Northbound - Platform 3", timeToStation := some 270 }])]

theorem shaped_of_run_two_then_one :
    ∃ history s, (homePage .reference).Run history s ∧
      slotsFilled .reference ⟨"u", "a"⟩ 0 history = 2 ∧
      Shaped (slotsFilled .reference ⟨"u", "a"⟩ 0 history) (s.store.arrivalTimes ⟨"u", "a"⟩) ∧
      ∀ i < 3, ((readTimes (s.store.arrivalTimes ⟨"u", "a"⟩)).destination i).isSome = true ↔
        i < slotsFilled .reference ⟨"u", "a"⟩ 0 history := by
  obtain ⟨history, s, run, -, seen⟩ := Machine.exec_reaches (M := homePage .reference)
    (fun history s => (slotsFilled .reference ⟨"u", "a"⟩ 0 history,
      ((history.origin s).store.arrivalTimes ⟨"u", "a"⟩).isNone))
    ⟨some "u", .empty, rfl⟩ twoThenOne (2, true) (by decide)
  rw [Prod.mk.injEq, Option.isNone_iff_eq_none] at seen
  have shaped : Shaped 0 ((history.origin s).store.arrivalTimes ⟨"u", "a"⟩) := by
    rw [seen.2]
    exact shaped_none
  exact ⟨history, s, run, seen.1, shaped_of_run run shaped⟩

end HomePage

end MindTheGap
