/-
# HomePage.PassOrder -- a pass and the order of the response

A completion sorts the decoded array, keeps the arrivals of its platform and writes the
`count`-th of them to slot `count`.  Which arrival stands first among several with one time
is the sort's choice, and the response may list them in any order.  None of this reaches
the times: every pass over the same arrivals, by either loop and any sort, writes the same
times to the same slots (`pass_unordered`).

`WritesTimes` says what such a pass writes.  The times are determined by it, since one list
of numbers in order rearranges another only by being equal to it.
-/
import MindTheGap.Model.Arrivals

namespace MindTheGap

open MindTheGap.Theory

set_option autoImplicit false

/-- The writes go to the slots `0`, `1`, ... in this order, one for each arrival on the
platform, and `times` are the times written: those of these arrivals, in order. -/
structure WritesTimes (direction : String) (arrivals : List TubeTimes) (writes : List Data)
    (times : List Int) : Prop where
  count : writes.length = (arrivals.filter (onPlatform direction)).length
  /-- The write for slot `i` names fields of slot `i` only. -/
  slots : ∀ (i : Nat) (write : Data), writes[i]? = some write →
    ∀ field ∈ write, field.1 ∈ [slotKey i, destinationKey i, directionKey i]
  written : writes.length = times.length ∧ ∀ (i : Nat) (write : Data) (time : Int),
    writes[i]? = some write → times[i]? = some time →
      write.lookup (slotKey i) = some (.int time)
  ordered : times.Pairwise (· ≤ ·)
  multiset : times.Perm
    ((arrivals.filter (onPlatform direction)).filterMap TubeTimes.timeToStation)

theorem Fetch.record_fields {fetch : Fetch} {count : Nat} {time : TubeTimes}
    {field : String × Value} (member : field ∈ fetch.record count time) :
    field.1 ∈ [slotKey count, destinationKey count, directionKey count] := by
  cases fetch with
  | first =>
      simp only [Fetch.record, List.mem_cons, List.not_mem_nil, or_false] at member
      rcases member with rfl | rfl | rfl <;> simp
  | timer =>
      simp only [Fetch.record, List.mem_cons, List.not_mem_nil, or_false] at member
      rcases member with rfl | rfl <;> simp

/-- Arrivals that all have a time are as many as their times, place by place. -/
theorem getElem?_times {arrivals : List TubeTimes}
    (timed : ∀ t ∈ arrivals, t.timeToStation.isSome) (i : Nat) :
    (arrivals.filterMap TubeTimes.timeToStation)[i]? =
      arrivals[i]?.bind TubeTimes.timeToStation := by
  have asMap : arrivals.filterMap TubeTimes.timeToStation =
      arrivals.map fun t => t.timeToStation.getD 0 := by
    rw [List.filterMap_eq_map_iff_forall_eq_some]
    intro t member
    obtain ⟨seconds, there⟩ := Option.isSome_iff_exists.1 (timed t member)
    rw [there]
    rfl
  rw [asMap, List.getElem?_map]
  cases found : arrivals[i]? with
  | none => rfl
  | some t =>
      obtain ⟨seconds, there⟩ := Option.isSome_iff_exists.1 (timed t (List.mem_of_getElem? found))
      simp [there]

/-- What one pass writes. -/
theorem pass_writesTimes (F : Frameworks) (fetch : Fetch) (direction : String)
    {arrivals : List TubeTimes} (timed : ∀ t ∈ arrivals, t.timeToStation.isSome) :
    ∃ sorted writes, F.sortByTime arrivals = some sorted ∧
      fetch.pass direction sorted = some writes ∧
      WritesTimes direction arrivals writes
        ((sorted.filter (onPlatform direction)).filterMap TubeTimes.timeToStation) := by
  obtain ⟨sorted, writes, sorts, ran, timedSorted, matching⟩ :=
    fetch.pass_of_timed F direction timed
  have timedMatching : ∀ t ∈ sorted.filter (onPlatform direction), t.timeToStation.isSome :=
    fun t member => timedSorted t (List.mem_of_mem_filter member)
  have times : Arrangement (· ≤ ·)
      ((arrivals.filter (onPlatform direction)).filterMap TubeTimes.timeToStation)
      ((sorted.filter (onPlatform direction)).filterMap TubeTimes.timeToStation) :=
    matching.filterMap TubeTimes.timeToStation fun _ _ ordered => ordered
  have slot : ∀ (i : Nat) (write : Data), writes[i]? = some write →
      ∃ t, (sorted.filter (onPlatform direction))[i]? = some t ∧ write = fetch.record i t := by
    intro i write found
    rw [Fetch.pass_slots ran, Doc.getElem?_slotted, Option.map_eq_some_iff] at found
    obtain ⟨t, isArrival, rfl⟩ := found
    exact ⟨t, isArrival, by rw [Nat.zero_add]⟩
  refine ⟨sorted, writes, sorts, ran, ?_, ?_, ?_, times.ordered, times.perm⟩
  · rw [Fetch.pass_slots ran, Doc.length_slotted, matching.length_eq]
  · intro i write found field member
    obtain ⟨t, -, rfl⟩ := slot i write found
    exact Fetch.record_fields member
  · constructor
    · rw [Fetch.pass_slots ran, Doc.length_slotted, List.length_filterMap_eq_countP, eq_comm,
        List.countP_eq_length]
      exact timedMatching
    · intro i write time found isTime
      obtain ⟨t, isArrival, rfl⟩ := slot i write found
      rw [getElem?_times timedMatching, isArrival, Option.bind_some] at isTime
      rw [Fetch.record_slotKey, if_pos rfl, timeValue, isTime]

/-- **A pass does not depend on the order of the response**, nor on what the sort does with
equal times, nor on which of the two loops runs. -/
theorem pass_unordered (F F' : Frameworks) (fetch fetch' : Fetch) (direction : String)
    {arrivals arrivals' : List TubeTimes} (timed : ∀ t ∈ arrivals, t.timeToStation.isSome)
    (same : arrivals'.Perm arrivals) :
    ∃ sorted sorted' writes writes' times,
      F.sortByTime arrivals = some sorted ∧ fetch.pass direction sorted = some writes ∧
      F'.sortByTime arrivals' = some sorted' ∧ fetch'.pass direction sorted' = some writes' ∧
      WritesTimes direction arrivals writes times ∧
      WritesTimes direction arrivals' writes' times ∧ writes'.length = writes.length := by
  have timed' : ∀ t ∈ arrivals', t.timeToStation.isSome :=
    fun t member => timed t (same.mem_iff.1 member)
  obtain ⟨sorted, writes, sorts, ran, wrote⟩ := pass_writesTimes F fetch direction timed
  obtain ⟨sorted', writes', sorts', ran', wrote'⟩ := pass_writesTimes F' fetch' direction timed'
  have matching := same.filter (onPlatform direction)
  have equal : (sorted'.filter (onPlatform direction)).filterMap TubeTimes.timeToStation =
      (sorted.filter (onPlatform direction)).filterMap TubeTimes.timeToStation :=
    Arrangement.unique (fun _ _ => Int.le_antisymm) ⟨wrote'.multiset, wrote'.ordered⟩
      ⟨wrote.multiset, wrote.ordered⟩ (matching.filterMap TubeTimes.timeToStation)
  rw [equal] at wrote'
  refine ⟨sorted, sorted', writes, writes', _, sorts, ran, sorts', ran', wrote, wrote', ?_⟩
  rw [wrote'.count, wrote.count, matching.length_eq]

/-- Two trains due at once on one platform, and one elsewhere. -/
def twoAtOnce : List TubeTimes :=
  [{ platformName := some "Northbound - Platform 3", timeToStation := some 60,
     destinationName := some "Walthamstow Central Underground Station" },
    { platformName := some "Southbound - Platform 4", timeToStation := some 45 },
    { platformName := some "Northbound - Platform 3", timeToStation := some 60,
      destinationName := some "Seven Sisters Underground Station" }]

theorem pass_unordered_two_at_once :
    ∃ sorted sorted' writes writes' times,
      Frameworks.reference.sortByTime twoAtOnce = some sorted ∧
      Fetch.first.pass "Northbound - Platform 3" sorted = some writes ∧
      Frameworks.reference.sortByTime twoAtOnce.reverse = some sorted' ∧
      Fetch.timer.pass "Northbound - Platform 3" sorted' = some writes' ∧
      WritesTimes "Northbound - Platform 3" twoAtOnce writes times ∧
      WritesTimes "Northbound - Platform 3" twoAtOnce.reverse writes' times ∧
      writes'.length = writes.length :=
  pass_unordered .reference .reference .first .timer "Northbound - Platform 3" (by decide)
    (List.reverse_perm twoAtOnce)

end MindTheGap
