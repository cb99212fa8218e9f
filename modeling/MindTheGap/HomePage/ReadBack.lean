/-
# HomePage.ReadBack -- what a poll leaves for the listener to read

A poll's completion writes the arrivals of its platform to the slots of the stop's
times document, one merge write a slot, and the listener of `getTimes` reads the
first three slots back.  After a pass the listener should see exactly the arrivals
of that pass: the `i`-th in slot `i`, and nothing in a slot beyond them
(`ReadsBack`).

A merge write never takes a field away, so a slot the pass does not reach keeps what
an earlier pass left there.  `readsBack_iff` is the exact condition: the slots beyond
the pass were already empty.
-/
import MindTheGap.Model.Arrivals

namespace MindTheGap

open MindTheGap.Theory

set_option autoImplicit false

/-- What the listener should read after a pass over `sorted`, the arrivals in time
order, for a stop of this direction. -/
structure ReadsBack (direction : String) (arrivals sorted : List TubeTimes)
    (times : TimeDestination) : Prop where
  present : ∀ i < 3, ∀ arrival, (sorted.filter (onPlatform direction))[i]? = some arrival →
    times.time i = arrival.timeToStation ∧
      times.destination i = some (arrival.destinationName.getD "error")
  absent : ∀ i < 3, (arrivals.filter (onPlatform direction)).length ≤ i →
    times.time i = none ∧ times.destination i = none
  ordered : ∀ i j x y, i < j → times.time i = some x → times.time j = some y → x ≤ y

theorem time_lt_three {times : TimeDestination} {i : Nat} {x : Int}
    (there : times.time i = some x) : i < 3 := by
  by_contra outside
  match i, outside with
  | i + 3, _ => simp [TimeDestination.time] at there

/-- A slot after a pass: the pass's arrival if it got that far, and otherwise what
the slot held before. -/
theorem readTimes_after_pass {fetch : Fetch} {direction : String} {sorted : List TubeTimes}
    {writes : List Data} (ran : fetch.pass direction sorted = some writes)
    (timed : ∀ t ∈ sorted, t.timeToStation.isSome) (prior : Option Fields) {i : Nat}
    (slot : i < 3) :
    (∀ arrival, (sorted.filter (onPlatform direction))[i]? = some arrival →
      (readTimes (setDataAll prior writes)).time i = arrival.timeToStation ∧
        (readTimes (setDataAll prior writes)).destination i =
          some (arrival.destinationName.getD "error")) ∧
    ((sorted.filter (onPlatform direction))[i]? = none →
      (readTimes (setDataAll prior writes)).time i = (readTimes prior).time i ∧
        (readTimes (setDataAll prior writes)).destination i =
          (readTimes prior).destination i) := by
  obtain ⟨time, destination⟩ :=
    readTimes_slotted fetch (sorted.filter (onPlatform direction)) prior slot
  rw [← Fetch.pass_slots ran] at time destination
  rw [time, destination]
  constructor
  · intro arrival found
    have member : arrival ∈ sorted := List.mem_of_mem_filter (List.mem_of_getElem? found)
    obtain ⟨seconds, there⟩ := Option.isSome_iff_exists.1 (timed arrival member)
    rw [found]
    simp [timeValue, there, destinationValue, Value.asInt, Value.asString]
  · intro beyond
    rw [beyond]
    exact ⟨rfl, rfl⟩

/-- **When a poll's arrivals are exactly what is read back.** -/
theorem readsBack_iff (F : Frameworks) (prior : Option Fields) (direction : String)
    (fetch : Fetch) {arrivals : List TubeTimes}
    (timed : ∀ t ∈ arrivals, t.timeToStation.isSome) :
    ∃ sorted writes, F.sortByTime arrivals = some sorted ∧
      fetch.pass direction sorted = some writes ∧
      (ReadsBack direction arrivals sorted (readTimes (setDataAll prior writes)) ↔
        ∀ i < 3, (arrivals.filter (onPlatform direction)).length ≤ i →
          (readTimes prior).time i = none ∧ (readTimes prior).destination i = none) := by
  obtain ⟨sorted, writes, sorts, ran, timedSorted, matching⟩ :=
    fetch.pass_of_timed F direction timed
  have after := fun i (slot : i < 3) => readTimes_after_pass ran timedSorted prior slot
  have beyond : ∀ i, (arrivals.filter (onPlatform direction)).length ≤ i ↔
      (sorted.filter (onPlatform direction))[i]? = none := by
    intro i
    rw [List.getElem?_eq_none_iff, matching.length_eq]
  refine ⟨sorted, writes, sorts, ran, ?_⟩
  constructor
  · intro reads i slot reached
    obtain ⟨time, destination⟩ := (after i slot).2 ((beyond i).1 reached)
    rw [← time, ← destination]
    exact reads.absent i slot reached
  · intro empty
    refine ⟨fun i slot => (after i slot).1, fun i slot reached => ?_,
      fun i j x y before hx hy => ?_⟩
    · obtain ⟨time, destination⟩ := (after i slot).2 ((beyond i).1 reached)
      rw [time, destination]
      exact empty i slot reached
    · -- a present slot holds an arrival of the pass, and those are in time order
      have held : ∀ k z, (readTimes (setDataAll prior writes)).time k = some z →
          ∃ arrival, (sorted.filter (onPlatform direction))[k]? = some arrival ∧
            arrival.timeToStation = some z := by
        intro k z there
        have slot := time_lt_three there
        cases found : (sorted.filter (onPlatform direction))[k]? with
        | none =>
            have kept := ((after k slot).2 found).1
            rw [kept, (empty k slot ((beyond k).2 found)).1] at there
            cases there
        | some arrival =>
            exact ⟨arrival, rfl, by rw [← ((after k slot).1 arrival found).1, there]⟩
      obtain ⟨a, foundA, timeA⟩ := held i x hx
      obtain ⟨b, foundB, timeB⟩ := held j y hy
      exact matching.related before foundA foundB x timeA y timeB

/-- One arrival on the platform, one elsewhere. -/
def quietEvening : List TubeTimes :=
  [{ platformName := some "Southbound - Platform 4", timeToStation := some 45 },
    { platformName := some "Northbound - Platform 3", timeToStation := some 60,
      destinationName := some "Walthamstow Central Underground Station" }]

/-- A times document as a pass with two arrivals left it. -/
def busyDocument : Option Fields :=
  setDataAll none
    [Fetch.timer.record 0 { timeToStation := some 30, destinationName := some "Brixton" },
      Fetch.timer.record 1 { timeToStation := some 300, destinationName := some "Brixton" }]

theorem readsBack_iff_new_document :
    ∃ sorted writes, Frameworks.reference.sortByTime quietEvening = some sorted ∧
      Fetch.first.pass "Northbound - Platform 3" sorted = some writes ∧
      (ReadsBack "Northbound - Platform 3" quietEvening sorted
          (readTimes (setDataAll none writes)) ↔
        ∀ i < 3, (quietEvening.filter (onPlatform "Northbound - Platform 3")).length ≤ i →
          (readTimes none).time i = none ∧ (readTimes none).destination i = none) :=
  readsBack_iff .reference none "Northbound - Platform 3" .first (by decide)

/-- The refuting pole: the second train of the earlier pass is still read. -/
theorem stale_slot_is_read :
    ∃ sorted writes, Frameworks.reference.sortByTime quietEvening = some sorted ∧
      Fetch.timer.pass "Northbound - Platform 3" sorted = some writes ∧
      (readTimes (setDataAll busyDocument writes)).time2 = some 300 ∧
      ¬ ReadsBack "Northbound - Platform 3" quietEvening sorted
        (readTimes (setDataAll busyDocument writes)) := by
  refine ⟨_, _, rfl, rfl, by decide, fun reads => ?_⟩
  exact absurd (reads.absent 1 (by decide) (by decide)).1 (by decide)

end MindTheGap
