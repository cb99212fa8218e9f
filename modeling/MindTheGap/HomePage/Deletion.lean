/-
# HomePage.Deletion -- a deleted stop and the polls that outlive it

A tap on a row's delete area deletes the stop and its times document.  After that no
step should write to the times document again (`StaysDeleted`).

The tap cancels nothing: requests of the stop may be in flight, and every timer ever
started for it keeps requesting.  `staysDeleted_iff` is the exact condition: no
response handled later for one of its polls has an arrival on the poll's platform
(`Barren`).  The first that has one makes the document again, since a merge write
creates what it does not find.
-/
import MindTheGap.HomePage.Writes

namespace MindTheGap

open MindTheGap.Theory

set_option autoImplicit false

namespace HomePage

/-- If the step handles a response of a poll of `ref`, the response has no arrival on
the poll's platform. -/
def Barren (s : HomePage) (ref : DocRef) (e : Event) : Prop :=
  ∀ request times, s.handles e = some (request, times) → request.poll.ref = ref →
    ∀ time ∈ times, onPlatform request.poll.direction time = false

/-- No step of `later`, which leads to `s`, wrote to the times document, and it is gone
in every state. -/
structure StaysDeleted (F : Frameworks) (ref : DocRef) (later : Machine.History HomePage Event)
    (s : HomePage) : Prop where
  unwritten : ∀ x ∈ later, x.1.written F x.2 ref = []
  gone : (∀ x ∈ later, x.1.store.arrivalTimes ref = none) ∧ s.store.arrivalTimes ref = none

variable {F : Frameworks} {s s' : HomePage} {e : Event} {ref : DocRef}

/-- A step writes nothing to a times document precisely when it is barren for it. -/
theorem written_eq_nil (next : Next F s e s') :
    s.written F e ref = [] ↔ s.Barren ref e := by
  rcases written_inv next ref with ⟨other, nothing⟩ | ⟨request, times, sorted, handled, same,
    sorts, passed⟩
  · refine iff_of_true nothing fun request times handled isRef => ?_
    exact absurd isRef (other request times handled)
  · have ran : requestWrites F request times = some (s.written F e ref) := by
      rw [requestWrites, sorts, Option.bind_some, passed]
    rw [requestWrites_eq_nil ran]
    constructor
    · intro none_on request' times' handled' _
      obtain ⟨rfl, rfl⟩ := Prod.mk.inj (Option.some.inj (handled.symm.trans handled'))
      exact none_on
    · exact fun barren => barren request times handled same

/-- One step from a state without the document leaves it absent precisely when it is
barren. -/
theorem gone_step (next : Next F s e s') (gone : s.store.arrivalTimes ref = none) :
    s'.store.arrivalTimes ref = none ↔ s.Barren ref e := by
  rw [arrivalTimes_step next, gone, ← written_eq_nil next]
  by_cases deleted : s.deletes ref e = true
  · -- a tap is no response, so it writes nothing
    rw [if_pos deleted]
    cases e with
    | hiddenContainerViewTapped indexPath => exact iff_of_true rfl rfl
    | _ => cases deleted
  · rw [if_neg deleted]
    constructor
    · intro absent
      by_contra some_write
      have present := setDataAll_isSome some_write none
      rw [absent] at present
      cases present
    · intro nothing
      rw [nothing]
      rfl

/-- **When a deleted stop stays deleted.** -/
theorem staysDeleted_iff {later earlier : Machine.History HomePage Event} {s₀ : HomePage}
    {indexPath : Option Nat}
    (run : (homePage F).Run (later ++ (s₀, .hiddenContainerViewTapped indexPath) :: earlier) s)
    (deleted : s₀.tappedStop indexPath = some ref) :
    StaysDeleted F ref later s ↔ ∀ x ∈ later, x.1.Barren ref x.2 := by
  have since : ∀ s, (homePage F).Run ((s₀, .hiddenContainerViewTapped indexPath) :: earlier) s →
      s.store.arrivalTimes ref = none := by
    intro s run
    cases run with
    | step _ enabled stepped =>
        rw [arrivalTimes_step (next_of_step F enabled stepped), if_pos]
        simpa [deletes] using deleted
  have gone := Machine.Run.forall_since_iff (P := fun s => s.store.arrivalTimes ref = none) since
    (fun _ s e s' _ gone enabled stepped => gone_step (next_of_step F enabled stepped) gone) run
  refine ⟨fun stays => gone.1 stays.gone, fun barren => ⟨?_, gone.2 barren⟩⟩
  intro x member
  obtain ⟨-, enabled, s', stepped⟩ := run.of_mem x (List.mem_append_left _ member)
  exact (written_eq_nil (next_of_step F enabled stepped)).2 (barren x member)

/-- The stop `a` is shown and deleted; then a response of its first poll is handled. -/
def deleteThenRespond (response : Response TubeTimes) : List Event :=
  [.stopsSnapshot 0 (.snapshot [sampleDocument "a"]), .mainQueue,
    .hiddenContainerViewTapped (some 0), .response 0 response]

/-- What the two runs below have in common. -/
theorem deleteThenRespond_run (response : Response TubeTimes) (times : Bool)
    (executed : ((homePage .reference).exec [] (viewDidLoad (some "u") .empty)
      (deleteThenRespond response)).map (fun x => (x.1[1]?.bind fun y => y.1.tappedStop (some 0),
        (x.2.store.arrivalTimes ⟨"u", "a"⟩).isSome)) = some (some ⟨"u", "a"⟩, times)) :
    ∃ later earlier s₀ s, (homePage .reference).Run
        (later ++ (s₀, .hiddenContainerViewTapped (some 0)) :: earlier) s ∧
      s₀.tappedStop (some 0) = some ⟨"u", "a"⟩ ∧
      later.map Prod.snd = [.response 0 response] ∧
      (s.store.arrivalTimes ⟨"u", "a"⟩).isSome = times := by
  obtain ⟨history, s, run, events, seen⟩ := Machine.exec_reaches (M := homePage .reference)
    (fun history s => (history[1]?.bind fun y => y.1.tappedStop (some 0),
      (s.store.arrivalTimes ⟨"u", "a"⟩).isSome)) ⟨some "u", .empty, rfl⟩ _ _ executed
  simp only [deleteThenRespond, List.reverse_cons, List.reverse_nil, List.nil_append,
    List.cons_append, List.map_eq_cons_iff] at events
  obtain ⟨x, rest, rfl, isResponse, ⟨s₀, tap⟩, earlier, rfl, rfl, -⟩ := events
  rw [Prod.mk.injEq] at seen
  exact ⟨[x], earlier, s₀, s, run, by simpa using seen.1, by simpa using isResponse, seen.2⟩

theorem staysDeleted_iff_no_data :
    ∃ later s, later.map Prod.snd = [.response 0 .noData] ∧
      (StaysDeleted .reference ⟨"u", "a"⟩ later s ↔ ∀ x ∈ later, x.1.Barren ⟨"u", "a"⟩ x.2) := by
  obtain ⟨later, _, _, s, run, deleted, events, -⟩ :=
    deleteThenRespond_run .noData false (by decide)
  exact ⟨later, s, events, staysDeleted_iff run deleted⟩

/-- The refuting pole: the answer in flight during the delete makes the document again. -/
theorem response_recreates_deleted :
    ∃ later earlier s₀ s, (homePage .reference).Run
        (later ++ (s₀, .hiddenContainerViewTapped (some 0)) :: earlier) s ∧
      s₀.tappedStop (some 0) = some ⟨"u", "a"⟩ ∧
      ¬ StaysDeleted .reference ⟨"u", "a"⟩ later s := by
  obtain ⟨later, earlier, s₀, s, run, deleted, -, present⟩ := deleteThenRespond_run
    (.decoded [{ platformName := some "Northbound - Platform 3", timeToStation := some 60 }])
    true (by decide)
  refine ⟨later, earlier, s₀, s, run, deleted, fun stays => ?_⟩
  rw [stays.gone.2] at present
  cases present

end HomePage

end MindTheGap
