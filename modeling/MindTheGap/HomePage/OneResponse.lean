/-
# HomePage.OneResponse -- whether the times read together came together

A pass writes its trains one slot at a time, and each write may be delivered to the
listener.  What the listener reads should all be of one poll response: no field of one
response beside a field of another (`FromOne`).

Which response a field is of is carried beside the document (`sources`): the response that
was handled when the field was last written, or, for what the page found, one of an
earlier run.  A pass that writes at all writes slot 0 first, so it tears what a listener
may read precisely when slots 1 and 2 hold something at that point: `fromOne_iff`.
-/
import MindTheGap.HomePage.Writes

namespace MindTheGap

open MindTheGap.Theory

set_option autoImplicit false

/-- The poll response a field was written for. -/
inductive Source where
  /-- One handled in an earlier run of the app. -/
  | earlier (label : Nat)
  /-- The one that answered this request. -/
  | response (request : Nat)
deriving DecidableEq, Repr

/-- All times and destinations that are present are of one response. -/
def FromOne (times : TimeDestination) (source : String → Source) : Prop :=
  ∃ one, ∀ i < 3, ((times.time i).isSome → source (slotKey i) = one) ∧
    ((times.destination i).isSome → source (destinationKey i) = one)

/-- Nothing is read beyond slot 0. -/
def FirstOnly (times : TimeDestination) : Prop :=
  ∀ i, 0 < i → i < 3 → times.time i = none ∧ times.destination i = none

/-- What is absent is of any response. -/
theorem absent_ofOne {p q : Prop} :
    ((none : Option Int).isSome → p) ∧ ((none : Option String).isSome → q) :=
  ⟨fun there => absurd there Bool.false_ne_true, fun there => absurd there Bool.false_ne_true⟩

/-- Nothing is read of a document that is not there. -/
theorem fromOne_none (source : String → Source) : FromOne (readTimes none) source := by
  refine ⟨.earlier 0, fun i slot => ?_⟩
  obtain ⟨time, destination⟩ := readTimes_slot none slot
  rw [time, destination]
  exact absent_ofOne

/-- The sources after some writes for a request. -/
def retag (writes : List Data) (request : Nat) (source : String → Source) (key : String) : Source :=
  if Doc.names writes key then .response request else source key

/-! ## One pass -/

section Pass

variable (fetch : Fetch) (written : List TubeTimes) (prior : Option Fields)
  (source : String → Source) (request : Nat) {i : Nat}

/-- A slot that was written. -/
theorem slot_reached (slot : i < 3) (reached : i < written.length) :
    ((readTimes (setDataAll prior (Doc.slotted fetch.record 0 written))).destination i).isSome ∧
      retag (Doc.slotted fetch.record 0 written) request source (slotKey i) = .response request ∧
      retag (Doc.slotted fetch.record 0 written) request source (destinationKey i) =
        .response request := by
  refine ⟨?_, if_pos ?_, if_pos ?_⟩
  · rw [(readTimes_slotted fetch written prior slot).2, List.getElem?_eq_getElem reached]
    rfl
  · exact (Doc.names_slotted fetch.record_slotKey _ _ _).2 ⟨Nat.zero_le i, by omega⟩
  · exact (Doc.names_slotted fetch.record_destinationKey _ _ _).2 ⟨Nat.zero_le i, by omega⟩

/-- A slot that was not, which is as before. -/
theorem slot_kept (slot : i < 3) (kept : written.length ≤ i) :
    (readTimes (setDataAll prior (Doc.slotted fetch.record 0 written))).time i =
        (readTimes prior).time i ∧
      (readTimes (setDataAll prior (Doc.slotted fetch.record 0 written))).destination i =
        (readTimes prior).destination i ∧
      retag (Doc.slotted fetch.record 0 written) request source (slotKey i) =
        source (slotKey i) ∧
      retag (Doc.slotted fetch.record 0 written) request source (destinationKey i) =
        source (destinationKey i) := by
  have unnamed : ¬ (0 ≤ i ∧ i < 0 + written.length) := by omega
  obtain ⟨time, destination⟩ := readTimes_slotted fetch written prior slot
  rw [List.getElem?_eq_none kept] at time destination
  refine ⟨time, destination, if_neg fun named => ?_, if_neg fun named => ?_⟩
  · exact unnamed ((Doc.names_slotted fetch.record_slotKey _ _ _).1 named)
  · exact unnamed ((Doc.names_slotted fetch.record_destinationKey _ _ _).1 named)

variable {fetch written prior source request}

/-- **When a pass shows no torn times.**  Every prefix of its writes leaves what is read
of one response precisely when nothing was read beyond slot 0. -/
theorem fromOne_during_iff (fromOne : FromOne (readTimes prior) source)
    (fresh : ∀ key, source key ≠ .response request) (some_train : written ≠ []) :
    (∀ n, FromOne
        (readTimes (setDataAll prior ((Doc.slotted fetch.record 0 written).take n)))
        (retag ((Doc.slotted fetch.record 0 written).take n) request source)) ↔
      FirstOnly (readTimes prior) := by
  have inside := List.length_pos_iff.2 some_train
  simp only [Doc.take_slotted]
  constructor
  · -- after the first write slot 0 is of this request, and the others are not
    intro during i after slot
    obtain ⟨one, shown⟩ := during 1
    have reached : 0 < (written.take 1).length := by
      rw [List.length_take]
      omega
    have kept : (written.take 1).length ≤ i := by
      rw [List.length_take]
      omega
    obtain ⟨present, -, isRequest⟩ :=
      slot_reached fetch _ prior source request (by omega) reached
    have isOne := ((shown 0 (by omega)).2 present).symm.trans isRequest
    obtain ⟨time, destination, ofTime, ofDestination⟩ :=
      slot_kept fetch _ prior source request slot kept
    obtain ⟨timeOne, destinationOne⟩ := shown i slot
    rw [time, ofTime, isOne] at timeOne
    rw [destination, ofDestination, isOne] at destinationOne
    exact ⟨Option.not_isSome_iff_eq_none.1 fun there => fresh _ (timeOne there),
      Option.not_isSome_iff_eq_none.1 fun there => fresh _ (destinationOne there)⟩
  · intro firstOnly n
    cases n with
    | zero => exact fromOne
    | succ n =>
        have first : 0 < (written.take (n + 1)).length := by
          rw [List.length_take]
          omega
        refine ⟨.response request, fun i slot => ?_⟩
        by_cases reached : i < (written.take (n + 1)).length
        · obtain ⟨-, ofTime, ofDestination⟩ :=
            slot_reached fetch _ prior source request slot reached
          exact ⟨fun _ => ofTime, fun _ => ofDestination⟩
        · have beyond : 0 < i := by omega
          obtain ⟨time, destination, -, -⟩ :=
            slot_kept fetch _ prior source request slot (Nat.le_of_not_lt reached)
          obtain ⟨noTime, noDestination⟩ := firstOnly i beyond slot
          rw [time, destination, noTime, noDestination]
          exact absent_ofOne
end Pass

namespace HomePage

variable (F : Frameworks) (ref : DocRef) (labels : String → Nat)

/-- The request a step answers; only such a step writes. -/
def answers : Event → Nat
  | .response k _ => k
  | _ => 0

/-- The response each field of the document is of. -/
def sources : Machine.History HomePage Event → String → Source
  | [] => fun key => .earlier (labels key)
  | (s, e) :: history => retag (s.written F e ref) (answers e) (sources history)

/-- What the listener may be handed in a run: the document as it is, or after some of the
writes of a step, each field with its source. -/
inductive Observable : Machine.History HomePage Event → HomePage → Option Fields →
    (String → Source) → Prop
  | now {history : Machine.History HomePage Event} {s : HomePage} :
      Observable history s (s.store.arrivalTimes ref) (sources F ref labels history)
  | during {history : Machine.History HomePage Event} {s s' : HomePage} {e : Event} (n : Nat) :
      Observable ((s, e) :: history) s'
        (setDataAll (s.store.arrivalTimes ref) ((s.written F e ref).take n))
        (retag ((s.written F e ref).take n) (answers e) (sources F ref labels history))
  | before {history : Machine.History HomePage Event} {s s' : HomePage} {e : Event}
      {contents : Option Fields} {source : String → Source}
      (observable : Observable history s contents source) :
      Observable ((s, e) :: history) s' contents source

/-- A step that writes to the document finds nothing beyond slot 0. -/
def FindsFirstOnly (s : HomePage) (e : Event) : Prop :=
  s.written F e ref ≠ [] → FirstOnly (readTimes (s.store.arrivalTimes ref))

variable {F ref labels} {history : Machine.History HomePage Event} {s s' : HomePage} {e : Event}

/-! ## One step -/

theorem observable_cons {P : Option Fields → (String → Source) → Prop} :
    (∀ contents source, Observable F ref labels ((s, e) :: history) s' contents source →
        P contents source) ↔
      (∀ contents source, Observable F ref labels history s contents source →
        P contents source) ∧
      (∀ n, P (setDataAll (s.store.arrivalTimes ref) ((s.written F e ref).take n))
        (retag ((s.written F e ref).take n) (answers e) (sources F ref labels history))) ∧
      P (s'.store.arrivalTimes ref) (sources F ref labels ((s, e) :: history)) := by
  constructor
  · intro all
    exact ⟨fun contents source seen => all contents source (.before seen),
      fun n => all _ _ (.during n), all _ _ .now⟩
  · rintro ⟨earlier, during, now⟩ contents source seen
    cases seen with
    | now => exact now
    | during n => exact during n
    | before seen => exact earlier contents source seen

/-- A step writes nothing, or one slot for each train on the platform of a request that
was not answered before. -/
theorem written_cases (next : Next F s e s') (enabled : s.Enabled e) :
    s.written F e ref = [] ∨ ∃ fetch : Fetch, ∃ matching,
      (s.requests[answers e]?.map Request.answered) = some false ∧ matching ≠ [] ∧
        s.written F e ref = Doc.slotted fetch.record 0 matching := by
  rcases written_inv next ref with ⟨-, nothing⟩ | ⟨request, times, sorted, handled, -, -, passed⟩
  · exact Or.inl nothing
  · cases e with
    | response k response =>
        rw [Fetch.pass_slots passed]
        cases isMatching : sorted.filter (onPlatform request.poll.direction) with
        | nil => exact Or.inl rfl
        | cons first rest => exact Or.inr ⟨request.fetch, first :: rest, enabled, by simp, rfl⟩
    | _ => cases handled

variable (F ref labels) in
/-- Fields are of answered requests. -/
def SourcesAnswered (history : Machine.History HomePage Event) (s : HomePage) : Prop :=
  ∀ key k, sources F ref labels history key = .response k →
    (s.requests[k]?.map Request.answered) = some true

/-- An answered request stays answered. -/
theorem answered_kept (next : Next F s e s') {k : Nat}
    (answered : (s.requests[k]?.map Request.answered) = some true) :
    (s'.requests[k]?.map Request.answered) = some true := by
  obtain ⟨request, issued, isAnswered⟩ := Option.map_eq_some_iff.1 answered
  have inside := (List.getElem?_eq_some_iff.1 issued).1
  have appended (more : List Request) :
      ((s.requests ++ more)[k]?.map Request.answered) = some true := by
    rw [List.getElem?_append_left inside]
    exact answered
  have marked {j : Nat} {other : Request} :
      ((s.requests.set j { other with answered := true })[k]?.map Request.answered) =
        some true := by
    rw [List.getElem?_set]
    split
    · rename_i same
      subst same
      simp [inside]
    · exact answered
  cases next with
  | stopsSnapshot j documents distinct => exact appended _
  | timerFired j => exact appended _
  | noData j response other issued' records => exact marked
  | response j response other times writes issued' records ran => exact marked
  | _ => exact answered

/-- A step that writes answers its request. -/
theorem answered_of_written (next : Next F s e s') (wrote : s.written F e ref ≠ []) :
    (s'.requests[answers e]?.map Request.answered) = some true := by
  have marked {k : Nat} {request : Request} (issued : s.requests[k]? = some request) :
      ((s.requests.set k { request with answered := true })[k]?.map Request.answered) =
        some true := by
    rw [List.getElem?_set_self (List.getElem?_eq_some_iff.1 issued).1]
    rfl
  cases next with
  | noData k response request issued records => exact marked issued
  | response k response request times writes issued records ran => exact marked issued
  | _ => exact absurd rfl wrote

theorem sourcesAnswered_of_run (run : (homePage F).Run history s) :
    SourcesAnswered F ref labels history s := by
  apply run.invariant (I := SourcesAnswered F ref labels)
  · intro s _ key k isSource
    cases isSource
  · intro history s e s' _ earlier enabled stepped key k isSource
    have next := next_of_step F enabled stepped
    rw [sources, retag] at isSource
    split at isSource
    · rename_i named
      cases isSource
      have wrote : s.written F e ref ≠ [] := by
        intro nothing
        rw [nothing] at named
        cases named
      exact answered_of_written next wrote
    · exact answered_kept next (earlier key k isSource)

/-- After a step the document is as its writes left it, or gone. -/
theorem fromOne_now (next : Next F s e s')
    (during : ∀ n, FromOne
      (readTimes (setDataAll (s.store.arrivalTimes ref) ((s.written F e ref).take n)))
      (retag ((s.written F e ref).take n) (answers e) (sources F ref labels history))) :
    FromOne (readTimes (s'.store.arrivalTimes ref)) (sources F ref labels ((s, e) :: history)) := by
  rw [arrivalTimes_step next ref]
  split
  · exact fromOne_none _
  · have whole := during (s.written F e ref).length
    rwa [List.take_length] at whole

theorem fromOne_step (run : (homePage F).Run history s) (enabled : s.Enabled e)
    (next : Next F s e s')
    (now : FromOne (readTimes (s.store.arrivalTimes ref)) (sources F ref labels history)) :
    (∀ n, FromOne
        (readTimes (setDataAll (s.store.arrivalTimes ref) ((s.written F e ref).take n)))
        (retag ((s.written F e ref).take n) (answers e) (sources F ref labels history))) ↔
      s.FindsFirstOnly F ref e := by
  unfold FindsFirstOnly
  rcases written_cases next enabled with nothing | ⟨fetch, matching, waiting, some_train, wrote⟩
  · rw [nothing]
    refine iff_of_true (fun n => ?_) fun some_write => absurd rfl some_write
    rw [List.take_nil]
    exact now
  · have fresh : ∀ key, sources F ref labels history key ≠ .response (answers e) := by
      intro key isSource
      have answered := sourcesAnswered_of_run run key _ isSource
      rw [waiting] at answered
      cases answered
    have some_write : s.written F e ref ≠ [] := by
      intro nothing
      have none_matching := congrArg List.length (wrote.symm.trans nothing)
      rw [Doc.length_slotted, List.length_nil] at none_matching
      exact some_train (List.length_eq_zero_iff.1 none_matching)
    rw [wrote, fromOne_during_iff now fresh some_train, ← wrote]
    exact ⟨fun firstOnly _ => firstOnly, fun finds => finds some_write⟩

/-! ## Runs -/

/-- **When no torn times can be read.** -/
theorem fromOne_iff (run : (homePage F).Run history s) :
    (∀ contents source, Observable F ref labels history s contents source →
        FromOne (readTimes contents) source) ↔
      FromOne (readTimes ((history.origin s).store.arrivalTimes ref))
          (fun key => .earlier (labels key)) ∧
        ∀ x ∈ history, x.1.FindsFirstOnly F ref x.2 := by
  induction run with
  | start starts =>
      constructor
      · intro all
        exact ⟨all _ _ .now, by simp⟩
      · rintro ⟨fromOne, -⟩ contents source seen
        cases seen
        exact fromOne
  | @step history s s' e run enabled stepped ih =>
      have next := next_of_step F enabled stepped
      rw [observable_cons, ih, List.forall_mem_cons, Machine.History.origin_cons]
      constructor
      · rintro ⟨⟨fromOne, earlier⟩, during, -⟩
        have now := ih.2 ⟨fromOne, earlier⟩ _ _ .now
        exact ⟨fromOne, (fromOne_step run enabled next now).1 during, earlier⟩
      · rintro ⟨fromOne, finds, earlier⟩
        have now := ih.2 ⟨fromOne, earlier⟩ _ _ .now
        have during := (fromOne_step run enabled next now).2 finds
        exact ⟨⟨fromOne, earlier⟩, during, fromOne_now next during⟩

/-- A new stop, and its first poll answered with one train. -/
def onePassOfOne : List Event :=
  [.stopsSnapshot 0 (.snapshot [sampleDocument "a"]), .response 0 (.decoded
    [{ platformName := some "Northbound - Platform 3", timeToStation := some 60 }])]

theorem fromOne_iff_one_pass :
    ∃ history s, (homePage .reference).Run history s ∧
      (s.store.arrivalTimes ⟨"u", "a"⟩).isSome ∧
      ((∀ contents source, Observable .reference ⟨"u", "a"⟩ (fun _ => 0) history s contents source →
          FromOne (readTimes contents) source) ↔
        FromOne (readTimes ((history.origin s).store.arrivalTimes ⟨"u", "a"⟩))
            (fun _ => .earlier 0) ∧
          ∀ x ∈ history, x.1.FindsFirstOnly .reference ⟨"u", "a"⟩ x.2) := by
  obtain ⟨history, s, run, -, made⟩ := Machine.exec_reaches (M := homePage .reference)
    (fun _ s => (s.store.arrivalTimes ⟨"u", "a"⟩).isSome) ⟨some "u", .empty, rfl⟩ onePassOfOne true
    (by decide)
  exact ⟨history, s, run, made, fromOne_iff run⟩

/-- Two trains on the platform. -/
def twoTrains (first second : Int) : Response TubeTimes :=
  .decoded [{ platformName := some "Northbound - Platform 3", timeToStation := some first },
    { platformName := some "Northbound - Platform 3", timeToStation := some second }]

/-- Two polls of a new stop, each answered with two trains. -/
def twoPassesOfTwo : List Event :=
  [.stopsSnapshot 0 (.snapshot [sampleDocument "a"]), .response 0 (twoTrains 60 300),
    .timerFired 0, .response 1 (twoTrains 30 270)]

/-- What is read after the first write of the last step, with the sources of slots 0 and 1. -/
def afterFirstWrite (F : Frameworks) (ref : DocRef) : Machine.History HomePage Event →
    Option (TimeDestination × Source × Source)
  | [] => none
  | (s, e) :: history =>
      let writes := (s.written F e ref).take 1
      let source := retag writes (answers e) (sources F ref (fun _ => 0) history)
      some (readTimes (setDataAll (s.store.arrivalTimes ref) writes), source (slotKey 0),
        source (slotKey 1))

/-- The refuting pole: after the first write of the second pass, its first train is read
beside the second train of the first. -/
theorem train_of_an_earlier_pass :
    ∃ history s contents source, (homePage .reference).Run history s ∧
      Observable .reference ⟨"u", "a"⟩ (fun _ => 0) history s contents source ∧
      (readTimes contents).time1 = some 30 ∧ (readTimes contents).time2 = some 300 ∧
      ¬ FromOne (readTimes contents) source := by
  obtain ⟨history, s, run, -, seen⟩ := Machine.exec_reaches (M := homePage .reference)
    (fun history _ => (afterFirstWrite .reference ⟨"u", "a"⟩ history).map fun x =>
      (x.1.time1, x.1.time2, x.2))
    ⟨some "u", .empty, rfl⟩ twoPassesOfTwo
    (some (some 30, some 300, .response 1, .response 0)) (by decide)
  cases history with
  | nil => cases seen
  | cons last history =>
      obtain ⟨first, second, ofFirst, ofSecond⟩ : _ ∧ _ ∧ _ ∧ _ := by
        simpa only [afterFirstWrite, Option.map_some, Option.some.injEq, Prod.mk.injEq] using seen
      refine ⟨_, s, _, _, run, .during 1, first, second, ?_⟩
      rintro ⟨one, shown⟩
      have one_first := (shown 0 (by omega)).1 (by rw [TimeDestination.time, first]; rfl)
      have one_second := (shown 1 (by omega)).1 (by rw [TimeDestination.time, second]; rfl)
      rw [ofFirst] at one_first
      rw [ofSecond, ← one_first] at one_second
      cases one_second

end HomePage

end MindTheGap
