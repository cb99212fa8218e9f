/-
# HomePage.NewestPoll -- which poll the first slot of a stop shows

The polls of a stop overlap: every snapshot starts another timer for it, and requests
carry no number.  A handled response with an arrival on the platform (`bearing`) writes
slot 0 of the stop's times document.

Nothing compares a response with what later requests brought, so the slot shows the
response that was handled last (`LastWins`), in every run.  That is the newest poll's
(`NewestWins`) when responses are handled in the order their requests were issued, and
need not be otherwise.
-/
import MindTheGap.HomePage.Writes

namespace MindTheGap

open MindTheGap.Theory

set_option autoImplicit false

namespace HomePage

variable (F : Frameworks) (ref : DocRef)

/-- The request a step answers for the stop, by its place in the order of issue, and the
first arrival of its response on the poll's platform. -/
def bearing (s : HomePage) : Event → Option (Nat × TubeTimes)
  | .response k response => do
      let (request, times) ← s.handles (.response k response)
      let sorted ← F.sortByTime times
      let first ← sorted.find? (onPlatform request.poll.direction)
      if request.poll.ref = ref then some (k, first) else none
  | _ => none

/-- The bearing responses handled since the stop was last deleted, newest first. -/
def bearings (history : Machine.History HomePage Event) : List (Nat × TubeTimes) :=
  (history.takeWhile fun x => x.1.deletes ref x.2 = false).filterMap fun x =>
    x.1.bearing F ref x.2

/-- The fields `0` and `0 destination` are those written for an arrival. -/
def ShowsFirst (s : HomePage) (first : TubeTimes) : Prop :=
  ((s.store.arrivalTimes ref).bind fun fields => fields (slotKey 0)) = some (timeValue first) ∧
    ((s.store.arrivalTimes ref).bind fun fields => fields (destinationKey 0)) =
      some (destinationValue first)

/-- Slot 0 is what the latest-issued of the bearing polls brought. -/
def NewestWins (history : Machine.History HomePage Event) (s : HomePage) : Prop :=
  ∀ newest ∈ bearings F ref history, (∀ other ∈ bearings F ref history, other.1 ≤ newest.1) →
    s.ShowsFirst ref newest.2

/-- Slot 0 is what the last-handled bearing response brought. -/
def LastWins (history : Machine.History HomePage Event) (s : HomePage) : Prop :=
  ∀ last ∈ (bearings F ref history).head?, s.ShowsFirst ref last.2

/-- Responses were handled in the order their requests were issued. -/
def InIssueOrder (history : Machine.History HomePage Event) : Prop :=
  (bearings F ref history).Pairwise fun later earlier => earlier.1 < later.1

variable {F ref} {s s' : HomePage} {e : Event} {history : Machine.History HomePage Event}

theorem bearings_deleted (deleted : s.deletes ref e = true) :
    bearings F ref ((s, e) :: history) = [] := by
  simp [bearings, deleted]

theorem bearings_kept (kept : s.deletes ref e = false) :
    bearings F ref ((s, e) :: history) =
      (s.bearing F ref e).toList ++ bearings F ref history := by
  cases found : s.bearing F ref e <;> simp [bearings, kept, found]

/-- A bearing response leaves its first arrival in slot 0. -/
theorem showsFirst_of_bearing (next : Next F s e s')
    {answered : Nat × TubeTimes} (bears : s.bearing F ref e = some answered) :
    s'.ShowsFirst ref answered.2 := by
  cases e with
  | response k response =>
      simp only [bearing, Option.bind_eq_bind, Option.bind_eq_some_iff] at bears
      obtain ⟨⟨request, times⟩, handled, sorted, sorts, first, isFirst, ofRef⟩ := bears
      split at ofRef
      · rename_i same
        cases ofRef
        obtain ⟨writes, ran⟩ := requestWrites_of_next next handled
        have passed : request.fetch.pass request.poll.direction sorted = some writes := by
          simpa [requestWrites, sorts] using ran
        have here := arrivalTimes_step next ref
        have kept : s.deletes ref (.response k response) = false := rfl
        have ofStop : request.poll.ref = ref := same
        have issued : s.written F (.response k response) ref = writes := by
          simp [written, handled, ofStop, ran]
        rw [kept, issued, if_neg Bool.false_ne_true] at here
        obtain ⟨time, destination⟩ :=
          Fetch.pass_fields passed ((s.store.arrivalTimes ref).getD Doc.empty) 0
        rw [← List.head?_eq_getElem?, List.head?_filter, isFirst] at time destination
        rw [ShowsFirst, here, setDataAll_field, setDataAll_field, time, destination]
        exact ⟨rfl, rfl⟩
      · cases ofRef
  | _ => cases bears

/-- A step that is not bearing for the stop writes nothing to it. -/
theorem written_of_not_bearing (next : Next F s e s')
    (not_bearing : s.bearing F ref e = none) : s.written F e ref = [] := by
  rcases written_inv next ref with ⟨-, nothing⟩ | ⟨request, times, sorted, handled, same, sorts,
    passed⟩
  · exact nothing
  · cases e with
    | response k response =>
        rw [Fetch.pass_eq_nil passed]
        cases isFirst : sorted.find? (onPlatform request.poll.direction) with
        | some first => simp [bearing, handled, sorts, isFirst, same] at not_bearing
        | none =>
            intro time member
            simpa using List.find?_eq_none.1 isFirst time member
    | _ => cases handled

theorem lastWins_of_run (run : (homePage F).Run history s) : LastWins F ref history s := by
  apply run.invariant (I := fun history s => LastWins F ref history s)
  · intro s _ last isLast
    cases isLast
  · intro history s e s' _ earlier enabled stepped
    have next := next_of_step F enabled stepped
    by_cases deleted : s.deletes ref e = true
    · intro last isLast
      rw [bearings_deleted deleted] at isLast
      cases isLast
    · rw [Bool.not_eq_true] at deleted
      unfold LastWins
      rw [bearings_kept deleted]
      cases bears : s.bearing F ref e with
      | some answered =>
          rintro last isLast
          cases isLast
          exact showsFirst_of_bearing next bears
      | none =>
          have same : s'.store.arrivalTimes ref = s.store.arrivalTimes ref := by
            rw [arrivalTimes_step next ref, deleted, written_of_not_bearing next bears]
            rfl
          intro last isLast
          unfold ShowsFirst
          rw [same]
          exact earlier last isLast

/-- **The last handled poll wins**, and that is the newest one when responses are handled
in the order of issue. -/
theorem lastWins (run : (homePage F).Run history s) :
    LastWins F ref history s ∧ (InIssueOrder F ref history → NewestWins F ref history s) := by
  have last : LastWins F ref history s := lastWins_of_run run
  refine ⟨last, fun ordered newest member isNewest => last newest ?_⟩
  unfold InIssueOrder at ordered
  cases answered : bearings F ref history with
  | nil =>
      rw [answered] at member
      cases member
  | cons first rest =>
      rw [answered] at member ordered isNewest
      rcases List.mem_cons.1 member with rfl | earlier
      · rfl
      · -- an earlier one would be both older and newest
        have older := (List.pairwise_cons.1 ordered).1 newest earlier
        have newer := isNewest first List.mem_cons_self
        omega

/-- A poll of the stop `a` and one of its timer, answered in this order. -/
def answeredPolls (first second : Nat) : List Event :=
  let arrivesIn (seconds : Int) : Response TubeTimes :=
    .decoded [{ platformName := some "Northbound - Platform 3", timeToStation := some seconds }]
  [.stopsSnapshot 0 (.snapshot [sampleDocument "a"]), .timerFired 0,
    .response first (arrivesIn 60), .response second (arrivesIn 300)]

theorem lastWins_in_order :
    ∃ history s, ((bearings .reference ⟨"u", "a"⟩ history).map Prod.fst = [1, 0]) ∧
      LastWins .reference ⟨"u", "a"⟩ history s ∧
      (InIssueOrder .reference ⟨"u", "a"⟩ history →
        NewestWins .reference ⟨"u", "a"⟩ history s) := by
  obtain ⟨history, s, run, -, seen⟩ := Machine.exec_reaches (M := homePage .reference)
    (fun history _ => (bearings .reference ⟨"u", "a"⟩ history).map Prod.fst)
    ⟨some "u", .empty, rfl⟩ (answeredPolls 0 1) [1, 0] (by decide)
  exact ⟨history, s, seen, lastWins run⟩

/-- The refuting pole: the timer's request was issued second and answered first, and the
older answer replaces what it brought. -/
theorem older_answer_wins :
    ∃ history s, (homePage .reference).Run history s ∧
      ¬ NewestWins .reference ⟨"u", "a"⟩ history s := by
  obtain ⟨history, s, run, -, seen⟩ := Machine.exec_reaches (M := homePage .reference)
    (fun history s => ((bearings .reference ⟨"u", "a"⟩ history).map fun x =>
        (x.1, timeValue x.2), (s.store.arrivalTimes ⟨"u", "a"⟩).bind fun fields => fields "0"))
    ⟨some "u", .empty, rfl⟩ (answeredPolls 1 0)
    ([(0, .int 300), (1, .int 60)], some (.int 300)) (by decide)
  simp only [Prod.mk.injEq, List.map_eq_cons_iff, List.map_eq_nil_iff] at seen
  obtain ⟨⟨⟨_, older⟩, _, answered, ⟨rfl, -⟩, ⟨_, newer⟩, _, rfl, ⟨rfl, brought⟩, rfl⟩,
    field⟩ := seen
  refine ⟨history, s, run, fun newestWins => ?_⟩
  have shown := (newestWins (1, newer) (by simp [answered]) (by simp [answered])).1
  have same : some (Value.int 300) = some (Value.int 60) := by
    rw [← field, ← brought]
    exact shown
  exact absurd same (by decide)

end HomePage

end MindTheGap
