/-
# HomePage.Reported -- every time on the page is one the service reported

Between a response and a row there are a sort, a loop of merge writes, a document that
keeps what nobody overwrites, a listener that may be called between two of the writes, and
a queue.  None of them makes a time up or moves it to another stop: each time and
destination in `timeArray` was in the document when the page appeared, or is that of a train
which a response for a poll of this document listed on the platform of the poll
(`reported_of_run`).  One text is the page's own: of such a train without a destination,
`"error"` is written in its place.  A time is never made up, as `"error"` is no `Int`.

Assumed is that a listener is called with its document as it was then or before
(`TruthfulTimes`).  The response may be any earlier one: that it is the newest, or that of
the times beside it, is another matter (`HomePage.NewestPoll`, `HomePage.OneResponse`).
-/
import MindTheGap.HomePage.OneResponse
import MindTheGap.HomePage.ReadBack
import MindTheGap.HomePage.Table

namespace MindTheGap

open MindTheGap.Theory

set_option autoImplicit false

namespace HomePage

/-- A handled response for a poll of the document lists such a train on its platform. -/
def Reported (history : Machine.History HomePage Event) (ref : DocRef) (P : TubeTimes → Prop) :
    Prop :=
  ∃ x ∈ history, ∃ request times, x.1.handles x.2 = some (request, times) ∧
    request.poll.ref = ref ∧ ∃ train ∈ times, onPlatform request.poll.direction train = true ∧
      P train

/-- What is read was read at first, or is of reported trains.  The text `"error"` stands for
the destination of a reported train that has none. -/
structure Accounted (history : Machine.History HomePage Event) (ref : DocRef)
    (first times : TimeDestination) : Prop where
  time : ∀ i seconds, times.time i = some seconds →
    first.time i = some seconds ∨ Reported history ref fun t => t.timeToStation = some seconds
  destination : ∀ i name, times.destination i = some name →
    first.destination i = some name ∨
      (Reported history ref fun t => t.destinationName = some name) ∨
      (name = "error" ∧ Reported history ref fun t => t.destinationName = none)

variable {F : Frameworks} {history : Machine.History HomePage Event} {s s' : HomePage} {e : Event}
  {ref : DocRef} {first times : TimeDestination}

theorem Reported.later {P : TubeTimes → Prop} {more : Machine.History HomePage Event}
    (reported : Reported history ref P) (part : history ⊆ more) : Reported more ref P := by
  obtain ⟨x, member, of⟩ := reported
  exact ⟨x, part member, of⟩

theorem Accounted.later {more : Machine.History HomePage Event}
    (accounted : Accounted history ref first times) (part : history ⊆ more) :
    Accounted more ref first times where
  time i seconds shown := (accounted.time i seconds shown).imp_right fun r => r.later part
  destination i name shown :=
    (accounted.destination i name shown).imp_right fun
      | .inl reported => .inl (reported.later part)
      | .inr ⟨placeholder, reported⟩ => .inr ⟨placeholder, reported.later part⟩

theorem destination_lt_three {i : Nat} {name : String} (there : times.destination i = some name) :
    i < 3 := by
  by_contra outside
  match i, outside with
  | i + 3, _ => simp [TimeDestination.destination] at there

/-- Trains that a response lists are written over what is accounted for. -/
theorem Accounted.written {request : Request} {arrivals written : List TubeTimes}
    {prior : Option Fields} (accounted : Accounted history ref first (readTimes prior))
    (handled : s.handles e = some (request, arrivals)) (same : request.poll.ref = ref)
    (listed : ∀ train ∈ written, train ∈ arrivals ∧
      onPlatform request.poll.direction train = true) :
    Accounted ((s, e) :: history) ref first
      (readTimes (setDataAll prior (Doc.slotted request.fetch.record 0 written))) := by
  have reported : ∀ (P : TubeTimes → Prop) (i : Nat) train, written[i]? = some train → P train →
      Reported ((s, e) :: history) ref P := by
    intro P i train found holds
    obtain ⟨member, onIt⟩ := listed train (List.mem_of_getElem? found)
    exact ⟨_, List.mem_cons_self, request, arrivals, handled, same, train, member, onIt, holds⟩
  have earlier := accounted.later (List.subset_cons_self (s, e) history)
  constructor
  · intro i seconds shown
    rw [(readTimes_slotted request.fetch written prior (time_lt_three shown)).1] at shown
    cases found : written[i]? with
    | none =>
        rw [found] at shown
        exact earlier.time i seconds shown
    | some train =>
        refine Or.inr (reported _ i train found ?_)
        rw [found] at shown
        cases timed : train.timeToStation with
        | none => simp [timeValue, timed, Value.asInt] at shown
        | some time => simpa [timeValue, timed, Value.asInt] using shown
  · intro i name shown
    rw [(readTimes_slotted request.fetch written prior (destination_lt_three shown)).2] at shown
    cases found : written[i]? with
    | none =>
        rw [found] at shown
        exact earlier.destination i name shown
    | some train =>
        rw [found] at shown
        refine Or.inr ?_
        cases named : train.destinationName with
        | none =>
            have placeholder : "error" = name := by
              simpa [destinationValue, named, Value.asString] using shown
            exact Or.inr ⟨placeholder.symm, reported _ i train found named⟩
        | some other =>
            have same : other = name := by
              simpa [destinationValue, named, Value.asString] using shown
            exact Or.inl (reported _ i train found (named.trans (congrArg some same)))

theorem accounted_none : Accounted history ref first (readTimes none) := by
  constructor
  · intro i seconds shown
    rw [(readTimes_slot none (time_lt_three shown)).1] at shown
    cases shown
  · intro i name shown
    rw [(readTimes_slot none (destination_lt_three shown)).2] at shown
    cases shown

/-- What a step leaves in the document, in the middle of its writes too. -/
theorem Accounted.prefix (accounted : Accounted history ref first
      (readTimes (s.store.arrivalTimes ref))) (next : Next F s e s') (n : Nat) :
    Accounted ((s, e) :: history) ref first
      (readTimes (setDataAll (s.store.arrivalTimes ref) ((s.written F e ref).take n))) := by
  rcases written_inv next ref with
    ⟨-, nothing⟩ | ⟨request, times, sorted, handled, same, sorts, passed⟩
  · rw [nothing, List.take_nil]
    exact accounted.later (List.subset_cons_self _ _)
  · rw [Fetch.pass_slots passed, Doc.take_slotted]
    refine accounted.written handled same fun train member => ?_
    obtain ⟨kept, onIt⟩ := List.mem_filter.1 (List.mem_of_mem_take member)
    exact ⟨(F.sortByTime_perm sorts).mem_iff.1 kept, onIt⟩

theorem Accounted.step (accounted : Accounted history ref first
      (readTimes (s.store.arrivalTimes ref))) (next : Next F s e s') :
    Accounted ((s, e) :: history) ref first (readTimes (s'.store.arrivalTimes ref)) := by
  rw [arrivalTimes_step next ref]
  split
  · exact accounted_none
  · have whole := accounted.prefix next (s.written F e ref).length
    rwa [List.take_length] at whole

end HomePage

end MindTheGap
