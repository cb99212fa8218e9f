/-
# HomePage.Writes -- what a step does to a times document

A step writes to a times document only when it handles the response of one of the
document's polls, and deletes it only when its row's delete area is tapped.
`arrivalTimes_step` says so for every step of the page; what holds of a document over
a run follows from it alone.
-/
import MindTheGap.HomePage.Effects

namespace MindTheGap

open MindTheGap.Theory

set_option autoImplicit false

namespace HomePage

/-- The request whose completion a step runs, with the array the callback decoded. -/
def handles (s : HomePage) : Event → Option (Request × List TubeTimes)
  | .response k response => do
      let request ← s.requests[k]?
      let times ← response.records
      return (request, times)
  | _ => none

/-- The `setData` calls a step makes on a times document. -/
def written (F : Frameworks) (s : HomePage) (e : Event) (ref : DocRef) : List Data :=
  match s.handles e with
  | some (request, times) =>
      if request.poll.ref = ref then (requestWrites F request times).getD [] else []
  | none => []

/-- A step deletes a stop and its times document. -/
def deletes (s : HomePage) (ref : DocRef) : Event → Bool
  | .hiddenContainerViewTapped indexPath => decide (s.tappedStop indexPath = some ref)
  | _ => false

variable {F : Frameworks} {s s' : HomePage} {e : Event}

theorem requestWrites_eq_nil {request : Request} {times : List TubeTimes} {writes : List Data}
    (ran : requestWrites F request times = some writes) :
    writes = [] ↔ ∀ time ∈ times, onPlatform request.poll.direction time = false := by
  obtain ⟨sorted, sorts, passed⟩ := Option.bind_eq_some_iff.1 ran
  rw [Fetch.pass_eq_nil passed]
  have same := F.sortByTime_perm sorts
  exact ⟨fun h time member => h time (same.mem_iff.2 member),
    fun h time member => h time (same.mem_iff.1 member)⟩

/-- A step that handles a response did not trap on it. -/
theorem requestWrites_of_next (next : Next F s e s') {request : Request}
    {times : List TubeTimes} (handled : s.handles e = some (request, times)) :
    ∃ writes, requestWrites F request times = some writes := by
  cases next with
  | noData k response request issued records => simp [handles, issued, records] at handled
  | response k response request times writes issued records ran =>
      simp only [handles, issued, records, Option.bind_eq_bind, Option.bind_some, Option.pure_def,
        Option.some.injEq, Prod.mk.injEq] at handled
      obtain ⟨rfl, rfl⟩ := handled
      exact ⟨writes, ran⟩
  | _ => cases handled

/-- A step writes nothing to a times document, or it handles a response of one of its polls
and writes what the pass makes of it. -/
theorem written_inv (next : Next F s e s') (ref : DocRef) :
    ((∀ request times, s.handles e = some (request, times) → request.poll.ref ≠ ref) ∧
      s.written F e ref = []) ∨
    ∃ request times sorted, s.handles e = some (request, times) ∧ request.poll.ref = ref ∧
      F.sortByTime times = some sorted ∧
      request.fetch.pass request.poll.direction sorted = some (s.written F e ref) := by
  unfold written
  cases handled : s.handles e with
  | none => exact Or.inl ⟨nofun, rfl⟩
  | some pair =>
      obtain ⟨request, times⟩ := pair
      by_cases same : request.poll.ref = ref
      · obtain ⟨writes, ran⟩ := requestWrites_of_next next handled
        obtain ⟨sorted, sorts, passed⟩ := Option.bind_eq_some_iff.1 ran
        refine Or.inr ⟨request, times, sorted, rfl, same, sorts, ?_⟩
        show _ = some (if request.poll.ref = ref then _ else _)
        rw [if_pos same, ran, passed, Option.getD_some]
      · refine Or.inl ⟨?_, if_neg same⟩
        rintro _ _ ⟨⟩
        exact same

/-- **What one step does to a times document.** -/
theorem arrivalTimes_step (next : Next F s e s') (ref : DocRef) :
    s'.store.arrivalTimes ref =
      if s.deletes ref e then none
      else setDataAll (s.store.arrivalTimes ref) (s.written F e ref) := by
  cases next with
  | noData k response request issued records =>
      simp [deletes, written, handles, issued, records, setDataAll]
  | response k response request times writes issued records ran =>
      by_cases same : request.poll.ref = ref
      · subst same
        simp [deletes, written, handles, issued, records, ran, Firestore.setArrivalTimes]
      · have away : ref ≠ request.poll.ref := fun h => same h.symm
        simp [deletes, written, handles, issued, records, same, Firestore.setArrivalTimes,
          Function.update_of_ne away, setDataAll]
  | tapIgnored indexPath nothing =>
      simp [deletes, nothing, written, handles, setDataAll]
  | deleted item deleted isTapped =>
      by_cases same : ref = deleted
      · subst same
        simp [deletes, isTapped, Firestore.deleteArrivalTimes]
      · have away : deleted ≠ ref := fun h => same h.symm
        simp [deletes, isTapped, away, written, handles, setDataAll, Firestore.deleteStop,
          Firestore.deleteArrivalTimes, Function.update_of_ne same]
  | _ => rfl

end HomePage

end MindTheGap
