/-
# Pages.MissingTimes -- arrivals without a time

Every field of a decoded arrival may be missing, and the write loops have a fallback for
a missing `timeToStation`.  Two lines unwrap it all the same: the comparator of the sort in
`getTrainTimes` and `getLineData`, and the `print` of the first fetch's loop.

`completes_iff` is the exact condition under which neither meets a missing time: every
entry has one, or there is nothing to compare, at most one entry, and that one is not
printed.
-/
import MindTheGap.Model.HomePage
import MindTheGap.Model.AddLinePage

namespace MindTheGap

open MindTheGap.Theory

set_option autoImplicit false

/-- Who has an array decoded and sorted, and runs a completion on it: a poll, or the
request of an add tap. -/
inductive Caller where
  | updateTubeTimes (page : HomePage) (request : Request)
  | addStop (page : AddLinePage) (request : StopRequest)

namespace Caller

/-- The sort and the completion run to their end. -/
def completes (F : Frameworks) (times : List TubeTimes) : Caller → Bool
  | .updateTubeTimes page request => (page.completion F request times).isSome
  | .addStop page request => ((F.sortByTime times).map (page.stopCompletion request)).isSome

/-- The completion prints the time of this arrival. -/
def prints (time : TubeTimes) : Caller → Bool
  | .updateTubeTimes _ request =>
      decide (request.fetch = .first) && onPlatform request.poll.direction time
  | .addStop _ _ => false

end Caller

theorem Frameworks.sortByTime_isSome_iff (F : Frameworks) (times : List TubeTimes) :
    (F.sortByTime times).isSome ↔
      times.length < 2 ∨ ∀ t ∈ times, t.timeToStation.isSome := by
  unfold Frameworks.sortByTime
  split
  · rename_i sorts
    exact iff_of_true rfl sorts
  · rename_i traps
    exact iff_of_false Bool.false_ne_true traps

theorem Fetch.data_isSome_iff (fetch : Fetch) (count : Nat) (time : TubeTimes) :
    (fetch.data count time).isSome ↔ (fetch = .first → time.timeToStation.isSome) := by
  cases fetch <;> simp [Fetch.data]

/-- A loop traps precisely at an arrival of its platform whose time it unwraps in vain. -/
theorem writeLoop_isSome_iff (fetch : Fetch) (direction : String) (count : Nat)
    (times : List TubeTimes) :
    (writeLoop fetch.data direction count times).isSome ↔
      ∀ t ∈ times, onPlatform direction t → fetch = .first → t.timeToStation.isSome := by
  induction times generalizing count with
  | nil => simp [writeLoop]
  | cons time times ih =>
      rw [List.forall_mem_cons, writeLoop]
      by_cases wanted : onPlatform direction time
      · rw [if_pos wanted, ← ih (count + 1)]
        have unwraps := fetch.data_isSome_iff count time
        cases made : fetch.data count time with
        | none =>
            rw [made] at unwraps
            simp [wanted, ← unwraps]
        | some write =>
            rw [made] at unwraps
            cases looped : writeLoop fetch.data direction (count + 1) times <;>
              simp [wanted, ← unwraps]
      · rw [if_neg wanted, ih count]
        simp [wanted]

/-- The completion of a poll runs to its end precisely when the sort does and the loop
then does. -/
theorem completion_isSome_iff (F : Frameworks) (page : HomePage) (request : Request)
    (times : List TubeTimes) :
    (page.completion F request times).isSome ↔ (F.sortByTime times).isSome ∧
      ∀ t ∈ times, onPlatform request.poll.direction t → request.fetch = .first →
        t.timeToStation.isSome := by
  cases sorts : F.sortByTime times with
  | none => simp [HomePage.completion, sorts]
  | some sorted =>
      have loop : (request.fetch.pass request.poll.direction sorted).isSome ↔ _ :=
        writeLoop_isSome_iff request.fetch request.poll.direction 0 sorted
      have perm := Frameworks.sortByTime_perm sorts
      simp only [perm.mem_iff] at loop
      rw [← loop]
      cases ran : request.fetch.pass request.poll.direction sorted <;>
        simp [HomePage.completion, sorts, ran]

/-- **When a decoded array is handled to the end.** -/
theorem completes_iff (F : Frameworks) (times : List TubeTimes) (caller : Caller) :
    caller.completes F times = true ↔ (∀ t ∈ times, t.timeToStation.isSome) ∨
      (times.length < 2 ∧ ∀ t ∈ times, caller.prints t = false) := by
  cases caller with
  | updateTubeTimes page request =>
      have printed : ∀ t, (Caller.updateTubeTimes page request).prints t = false ↔
          ¬ (onPlatform request.poll.direction t ∧ request.fetch = .first) := by
        intro t
        simp [Caller.prints, or_comm, imp_iff_or_not]
      rw [Caller.completes, completion_isSome_iff, Frameworks.sortByTime_isSome_iff]
      constructor
      · rintro ⟨short | timed, unwrapped⟩
        · by_cases timed : ∀ t ∈ times, t.timeToStation.isSome
          · exact Or.inl timed
          · -- the only entry has no time, so the loop did not print it
            refine Or.inr ⟨short, fun t member => (printed t).2 ?_⟩
            rintro ⟨wanted, first⟩
            apply timed
            intro other member'
            have one : times.length = 1 := by
              have some_entry := List.length_pos_of_mem member
              omega
            obtain ⟨single, isSingle⟩ := List.length_eq_one_iff.1 one
            rw [isSingle, List.mem_singleton] at member member'
            rw [member', ← member]
            exact unwrapped t (by rw [isSingle, member]; exact List.mem_cons_self) wanted first
        · exact Or.inl timed
      · rintro (timed | ⟨short, unprinted⟩)
        · exact ⟨Or.inr timed, fun t member _ _ => timed t member⟩
        · refine ⟨Or.inl short, fun t member wanted first => ?_⟩
          exact absurd ⟨wanted, first⟩ ((printed t).1 (unprinted t member))
  | addStop page request =>
      rw [Caller.completes, Option.isSome_map, Frameworks.sortByTime_isSome_iff]
      simp [Caller.prints, or_comm]

/-- The refuting pole: of two decoded arrivals one has no time.  The sort traps, for a
poll and for an add tap. -/
theorem missing_time_traps :
    (Caller.updateTubeTimes (HomePage.viewDidLoad (some "u") .empty)
      ⟨⟨⟨"u", "a"⟩, "940GZZLUVIC", "victoria", "Northbound - Platform 3"⟩, .timer, false⟩).completes
        .reference [{ timeToStation := some 60 }, {}] = false ∧
    (Caller.addStop { currentUser := some "u", store := .empty }
      ⟨"u", "victoria", "940GZZLUVIC", "Northbound - Platform 3", "d", false⟩).completes
        .reference [{ timeToStation := some 60 }, {}] = false := by
  decide

end MindTheGap
