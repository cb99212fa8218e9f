/-
# Model.Arrivals -- from a decoded array of arrivals to the merge writes of a poll

`getTrainTimes` and `getLineData` sort a decoded array by `timeToStation`, with a
comparator that unwraps it.  What the sort returns among equal times is the
library's choice, and so is which addresses `URL(string:)` accepts; `Frameworks`
holds both choices, and every result holds for all of them.  A sort of two or more
entries compares each of them at least once, so it traps as soon as one has no
time; a sort of fewer compares nothing.

The completions of `updateTubeTimes` then run over the sorted array and write the
`count`-th arrival of the wanted platform to slot `count`.  The two completions
differ in what they write and in a `print` that unwraps the time: `Fetch` says
which of them runs.
-/
import Mathlib.Data.List.Sort
import MindTheGap.Theory.Arrangement
import MindTheGap.Model.Firestore

namespace MindTheGap

open MindTheGap.Theory

set_option autoImplicit false

/-- `a` may stand before `b` in an array sorted by time. -/
def TimeOrdered (a b : TubeTimes) : Prop :=
  ∀ x ∈ a.timeToStation, ∀ y ∈ b.timeToStation, x ≤ y

/-- What the frameworks decide: the addresses `URL(string:)` accepts, and the order
`Array.sort` gives to a decoded array. -/
structure Frameworks where
  urlBuilds : String → Bool
  arrange : List TubeTimes → List TubeTimes
  perm : ∀ times, (arrange times).Perm times
  ordered : ∀ times, (∀ t ∈ times, t.timeToStation.isSome) →
    (arrange times).Pairwise TimeOrdered

namespace Frameworks

/-- `times.sort { $0.timeToStation! < $1.timeToStation! }`; `none` is the trap. -/
def sortByTime (F : Frameworks) (times : List TubeTimes) : Option (List TubeTimes) :=
  if times.length < 2 ∨ ∀ t ∈ times, t.timeToStation.isSome then some (F.arrange times)
  else none

theorem sortByTime_perm {F : Frameworks} {times sorted : List TubeTimes}
    (sorts : F.sortByTime times = some sorted) : sorted.Perm times := by
  unfold sortByTime at sorts
  split at sorts
  · cases sorts; exact F.perm times
  · cases sorts

/-- When every entry has a time the sort does not trap, and arranges the array. -/
theorem sortByTime_timed (F : Frameworks) {times : List TubeTimes}
    (timed : ∀ t ∈ times, t.timeToStation.isSome) :
    ∃ sorted, F.sortByTime times = some sorted ∧ Arrangement TimeOrdered times sorted := by
  refine ⟨F.arrange times, ?_, F.perm times, F.ordered times timed⟩
  rw [sortByTime, if_pos (Or.inr timed)]

/-- A choice of the frameworks that can be evaluated: every address is accepted, and
entries without a time sort as if due now. -/
def reference : Frameworks where
  urlBuilds _ := true
  arrange := List.insertionSort fun a b => a.timeToStation.getD 0 ≤ b.timeToStation.getD 0
  perm := List.perm_insertionSort _
  ordered := by
    intro times timed
    have total : Std.Total fun a b : TubeTimes =>
        a.timeToStation.getD 0 ≤ b.timeToStation.getD 0 := ⟨fun a b => le_total _ _⟩
    have trans : IsTrans TubeTimes fun a b =>
        a.timeToStation.getD 0 ≤ b.timeToStation.getD 0 := ⟨fun a b c => le_trans⟩
    refine (List.pairwise_insertionSort _ times).imp fun {a b} le x hx y hy => ?_
    rw [Option.mem_def] at hx hy
    simpa [hx, hy] using le

end Frameworks

/-- The address both pages request arrivals from. -/
def arrivalsURL (line naptan : String) : String :=
  s!"https://api.tfl.gov.uk/Line/{line}/Arrivals/{naptan}"

/-! ## The write loops of `updateTubeTimes` -/

/-- Which completion a request was issued with: the one run at once, or the timer's. -/
inductive Fetch where
  | first
  | timer
deriving DecidableEq, Repr

/-- `time.timeToStation ?? "error"`. -/
def timeValue (time : TubeTimes) : Value :=
  match time.timeToStation with
  | some seconds => .int seconds
  | none => .string "error"

/-- `time.destinationName ?? "error"`. -/
def destinationValue (time : TubeTimes) : Value :=
  .string (time.destinationName.getD "error")

/-- The dictionary written for slot `count`.  Only the first fetch adds the direction. -/
def Fetch.record : Fetch → Nat → TubeTimes → Data
  | .first, count, time =>
      [(slotKey count, timeValue time), (destinationKey count, destinationValue time),
        (directionKey count, .string (time.platformName.getD "error"))]
  | .timer, count, time =>
      [(slotKey count, timeValue time), (destinationKey count, destinationValue time)]

/-- The dictionary as the loop makes it.  The first fetch prints `timeToStation!`
before it, and traps there when the time is missing. -/
def Fetch.data : Fetch → Nat → TubeTimes → Option Data
  | .first, count, time => time.timeToStation.map fun _ => Fetch.first.record count time
  | .timer, count, time => some (Fetch.timer.record count time)

/-- `time.platformName == direction`, on texts up to canonical equivalence. -/
def onPlatform (direction : String) (time : TubeTimes) : Bool :=
  decide (time.platformName = some direction)

/-- The loop over the sorted array, with `count` the next slot. -/
def writeLoop (data : Nat → TubeTimes → Option Data) (direction : String) :
    Nat → List TubeTimes → Option (List Data)
  | _, [] => some []
  | count, time :: times =>
      if onPlatform direction time then do
        let write ← data count time
        let writes ← writeLoop data direction (count + 1) times
        return write :: writes
      else writeLoop data direction count times

/-- The writes of one completion, or its trap. -/
def Fetch.pass (fetch : Fetch) (direction : String) (times : List TubeTimes) :
    Option (List Data) :=
  writeLoop fetch.data direction 0 times

theorem Fetch.record_of_data {fetch : Fetch} {count : Nat} {time : TubeTimes} {write : Data}
    (made : fetch.data count time = some write) : write = fetch.record count time := by
  cases fetch with
  | first =>
      obtain ⟨_, -, rfl⟩ := Option.map_eq_some_iff.1 made
      rfl
  | timer => exact (Option.some.inj made).symm

theorem Fetch.data_timed (fetch : Fetch) (count : Nat) {time : TubeTimes}
    (timed : time.timeToStation.isSome) :
    fetch.data count time = some (fetch.record count time) := by
  obtain ⟨seconds, present⟩ := Option.isSome_iff_exists.1 timed
  cases fetch with
  | first => rw [Fetch.data, present]; rfl
  | timer => rfl

/-- A loop that does not trap writes the platform's arrivals to ascending slots. -/
theorem writeLoop_slots {fetch : Fetch} {direction : String} {count : Nat}
    {times : List TubeTimes} {writes : List Data}
    (ran : writeLoop fetch.data direction count times = some writes) :
    writes = Doc.slotted fetch.record count (times.filter (onPlatform direction)) := by
  induction times generalizing count writes with
  | nil => cases ran; rfl
  | cons time times ih =>
      by_cases wanted : onPlatform direction time
      · simp only [writeLoop, wanted, if_true, Option.bind_eq_bind, Option.bind_eq_some_iff,
          Option.pure_def, Option.some.injEq] at ran
        obtain ⟨write, made, rest, looped, rfl⟩ := ran
        rw [List.filter_cons_of_pos wanted, Doc.slotted, ← ih looped, Fetch.record_of_data made]
      · simp only [writeLoop, wanted] at ran
        rw [List.filter_cons_of_neg wanted]
        exact ih ran

theorem writeLoop_timed (fetch : Fetch) (direction : String) (count : Nat)
    {times : List TubeTimes} (timed : ∀ t ∈ times, t.timeToStation.isSome) :
    ∃ writes, writeLoop fetch.data direction count times = some writes := by
  induction times generalizing count with
  | nil => exact ⟨[], rfl⟩
  | cons time times ih =>
      have later := fun t member => timed t (List.mem_cons_of_mem _ member)
      by_cases wanted : onPlatform direction time
      · obtain ⟨writes, looped⟩ := ih (count + 1) later
        have made := fetch.data_timed count (timed time List.mem_cons_self)
        refine ⟨fetch.record count time :: writes, ?_⟩
        simp [writeLoop, wanted, made, looped]
      · obtain ⟨writes, looped⟩ := ih count later
        exact ⟨writes, by simpa [writeLoop, wanted] using looped⟩

theorem Fetch.pass_slots {fetch : Fetch} {direction : String} {times : List TubeTimes}
    {writes : List Data} (ran : fetch.pass direction times = some writes) :
    writes = Doc.slotted fetch.record 0 (times.filter (onPlatform direction)) :=
  writeLoop_slots ran

theorem Fetch.pass_timed (fetch : Fetch) (direction : String) {times : List TubeTimes}
    (timed : ∀ t ∈ times, t.timeToStation.isSome) :
    ∃ writes, fetch.pass direction times = some writes :=
  writeLoop_timed fetch direction 0 timed

/-- A response whose arrivals have times is sorted and runs through, and the arrivals of the
platform come out in the order of their times. -/
theorem Fetch.pass_of_timed (F : Frameworks) (fetch : Fetch) (direction : String)
    {arrivals : List TubeTimes} (timed : ∀ t ∈ arrivals, t.timeToStation.isSome) :
    ∃ sorted writes, F.sortByTime arrivals = some sorted ∧
      fetch.pass direction sorted = some writes ∧ (∀ t ∈ sorted, t.timeToStation.isSome) ∧
      Arrangement TimeOrdered (arrivals.filter (onPlatform direction))
        (sorted.filter (onPlatform direction)) := by
  obtain ⟨sorted, sorts, arranged⟩ := F.sortByTime_timed timed
  have timedSorted : ∀ t ∈ sorted, t.timeToStation.isSome :=
    fun t member => timed t ((arranged.mem_iff t).1 member)
  obtain ⟨writes, ran⟩ := fetch.pass_timed direction timedSorted
  exact ⟨sorted, writes, sorts, ran, timedSorted, arranged.filter (onPlatform direction)⟩

theorem Fetch.record_slotKey (fetch : Fetch) (i j : Nat) (time : TubeTimes) :
    (fetch.record j time).lookup (slotKey i) = if i = j then some (timeValue time) else none := by
  cases fetch <;> by_cases same : i = j <;>
    simp [Fetch.record, List.lookup_cons, beq_eq_decide, same]

theorem Fetch.record_destinationKey (fetch : Fetch) (i j : Nat) (time : TubeTimes) :
    (fetch.record j time).lookup (destinationKey i) =
      if i = j then some (destinationValue time) else none := by
  cases fetch <;> by_cases same : i = j <;>
    simp [Fetch.record, List.lookup_cons, beq_eq_decide, same]

/-- **What one completion leaves in the document.**  Slot `i` holds the `i`-th
arrival of the platform if there are that many, and what it held before otherwise. -/
theorem Fetch.pass_fields {fetch : Fetch} {direction : String} {times : List TubeTimes}
    {writes : List Data} (ran : fetch.pass direction times = some writes)
    (document : Doc String Value) (i : Nat) :
    document.mergeAll writes (slotKey i) =
        ((times.filter (onPlatform direction))[i]?.map timeValue).or (document (slotKey i)) ∧
      document.mergeAll writes (destinationKey i) =
        ((times.filter (onPlatform direction))[i]?.map destinationValue).or
          (document (destinationKey i)) := by
  rw [Fetch.pass_slots ran, Doc.mergeAll_slotted fetch.record_slotKey,
    Doc.mergeAll_slotted fetch.record_destinationKey]
  simp

/-- What the listener reads of a slot after some of the slots were written: the arrival
written there, or what it read before. -/
theorem readTimes_slotted (fetch : Fetch) (arrivals : List TubeTimes) (prior : Option Fields)
    {i : Nat} (slot : i < 3) :
    (readTimes (setDataAll prior (Doc.slotted fetch.record 0 arrivals))).time i =
        (arrivals[i]?.map timeValue).elim ((readTimes prior).time i) Value.asInt ∧
      (readTimes (setDataAll prior (Doc.slotted fetch.record 0 arrivals))).destination i =
        (arrivals[i]?.map destinationValue).elim ((readTimes prior).destination i)
          Value.asString := by
  obtain ⟨timeBefore, destinationBefore⟩ := readTimes_slot prior slot
  obtain ⟨timeAfter, destinationAfter⟩ :=
    readTimes_slot (setDataAll prior (Doc.slotted fetch.record 0 arrivals)) slot
  rw [timeAfter, destinationAfter, timeBefore, destinationBefore, readInt_setDataAll,
    readString_setDataAll, Doc.mergeAll_slotted fetch.record_slotKey,
    Doc.mergeAll_slotted fetch.record_destinationKey, readInt_eq, readString_eq]
  cases arrivals[i]? with
  | none => simp
  | some arrival => simp

/-- A completion writes nothing precisely when no arrival is on the platform. -/
theorem Fetch.pass_eq_nil {fetch : Fetch} {direction : String} {times : List TubeTimes}
    {writes : List Data} (ran : fetch.pass direction times = some writes) :
    writes = [] ↔ ∀ t ∈ times, onPlatform direction t = false := by
  rw [Fetch.pass_slots ran]
  have slots : ∀ (count : Nat) (xs : List TubeTimes),
      Doc.slotted fetch.record count xs = [] ↔ xs = [] := by
    intro count xs
    cases xs <;> simp [Doc.slotted]
  rw [slots, List.filter_eq_nil_iff]
  simp

end MindTheGap
