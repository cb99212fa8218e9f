/-
# HomePage.Subscriptions -- what is listened to and polled

Listeners are never removed and timers never invalidated, so what is registered is
live for good.  There should be one listener on the collection, and for each document
one times listener and one repeating timer (`Single`).

Every signed-in `getSavedStops` registers another collection listener, and every
snapshot any of them sees registers a times listener for each document its loop
reaches and starts a timer for each it decodes.  `single_iff` is the exact condition:
nothing subscribes to the collection a second time, and no snapshot reaches a document
that is already listened to (`Fresh`).

That the timers need no condition of their own is `polled_is_listened`: a document is
polled only after it is listened to.
-/
import Mathlib.Data.List.Nodup
import MindTheGap.HomePage.Effects

namespace MindTheGap

open MindTheGap.Theory

set_option autoImplicit false

namespace HomePage

/-- The documents of the live times listeners. -/
def listened (s : HomePage) : List String :=
  s.timesListeners.map fun listener => listener.ref.documentID

/-- The documents of the live timers. -/
def polled (s : HomePage) : List String :=
  s.timers.map fun poll => poll.ref.documentID

/-- No subscription and no poll is there twice. -/
structure Single (s : HomePage) : Prop where
  collection : s.stopsListeners.length ≤ 1
  times : ∀ documentID, s.listened.count documentID ≤ 1
  timers : ∀ documentID, s.polled.count documentID ≤ 1

/-- The step subscribes to nothing that is subscribed to already. -/
def Fresh (s : HomePage) : Event → Prop
  | .getSavedStops => s.currentUser = none ∨ s.stopsListeners = []
  | .refreshData => s.currentUser = none ∨ s.stopsListeners = []
  | .stopsSnapshot _ (.snapshot documents) =>
      s.currentUser = none ∨ ∀ document ∈ reached documents, document.documentID ∉ s.listened
  | _ => True

/-- What the proofs use of a page: three lists without repetition. -/
theorem single_iff_nodup {s : HomePage} :
    Single s ↔ s.stopsListeners.length ≤ 1 ∧ s.listened.Nodup ∧ s.polled.Nodup := by
  rw [List.nodup_iff_count_le_one, List.nodup_iff_count_le_one]
  exact ⟨fun single => ⟨single.collection, single.times, single.timers⟩,
    fun ⟨collection, times, timers⟩ => ⟨collection, times, timers⟩⟩

/-! ## What a step registers -/

/-- The documents a step starts to listen to. -/
def listens (s : HomePage) : Event → List String
  | .stopsSnapshot _ (.snapshot documents) =>
      (newTimesListeners s.currentUser documents).map fun listener => listener.ref.documentID
  | _ => []

/-- The documents a step starts to poll. -/
def polls (s : HomePage) : Event → List String
  | .stopsSnapshot _ (.snapshot documents) =>
      (newPolls s.currentUser documents).map fun poll => poll.ref.documentID
  | _ => []

/-- The collection listeners a step registers. -/
def subscribes (s : HomePage) : Event → List StopsListener
  | .getSavedStops => newStopsListener s.currentUser
  | .refreshData => newStopsListener s.currentUser
  | _ => []

/-- Marking a listener as called keeps its document. -/
theorem fired_documents (listeners : List TimesListener) (k : Nat) :
    (listeners.modify k fun listener => { listener with fired := true }).map
        (fun listener => listener.ref.documentID) =
      listeners.map fun listener => listener.ref.documentID := by
  apply List.ext_getElem?
  intro i
  rw [List.getElem?_map, List.getElem?_map, List.getElem?_modify]
  cases listeners[i]? <;> by_cases same : k = i <;> simp [same]

/-- **What one step registers.**  It removes nothing. -/
theorem registered_step (F : Frameworks) {s s' : HomePage} {e : Event} (next : Next F s e s') :
    s'.stopsListeners.length = s.stopsListeners.length + (s.subscribes e).length ∧
      s'.listened = s.listened ++ s.listens e ∧ s'.polled = s.polled ++ s.polls e := by
  cases next with
  | stopsSnapshot k documents distinct =>
      simp [subscribes, listens, polls, listened, polled]
  | timesFailed k =>
      simp [subscribes, listens, polls, listened, polled, fired_documents]
  | timesSnapshot k contents own =>
      simp [subscribes, listens, polls, listened, polled, fired_documents]
  | _ => simp [subscribes, listens, polls, listened, polled]

/-- A step polls, in order, the first of the documents it starts to listen to. -/
theorem polls_begin_listens (s : HomePage) (e : Event) : s.polls e <+: s.listens e := by
  cases e with
  | stopsSnapshot k delivery =>
      cases delivery with
      | failed => exact List.prefix_rfl
      | snapshot documents =>
          cases user : s.currentUser with
          | none => simp [polls, listens, newPolls, newTimesListeners, user]
          | some uid =>
              simpa [polls, listens, newPolls, newTimesListeners, user, SavedStop.poll,
                Function.comp_def] using leading_begins_reached documents
  | _ => exact List.prefix_rfl

theorem listens_nodup {s : HomePage} {e : Event} (enabled : s.Enabled e) :
    (s.listens e).Nodup := by
  cases e with
  | stopsSnapshot k delivery =>
      cases delivery with
      | failed => exact List.nodup_nil
      | snapshot documents =>
          cases user : s.currentUser with
          | none => simp [listens, newTimesListeners, user]
          | some uid =>
              have once := (reached_sublist documents).map QueryDocument.documentID
              simpa [listens, newTimesListeners, user, Function.comp_def] using
                once.nodup enabled.2
  | _ => exact List.nodup_nil

/-- Only what is listened to is polled. -/
theorem polled_is_listened (F : Frameworks) {history : Machine.History HomePage Event}
    {s : HomePage} (run : (homePage F).Run history s) : s.polled ⊆ s.listened := by
  apply run.invariant (I := fun _ s => s.polled ⊆ s.listened)
  · rintro s ⟨currentUser, store, rfl⟩
    rw [viewDidLoad, getSavedStops_eq]
    exact List.Subset.refl _
  · intro history s e s' _ kept enabled stepped
    obtain ⟨-, times, timers⟩ := registered_step F (next_of_step F enabled stepped)
    rw [times, timers]
    refine List.append_subset.2 ⟨?_, ?_⟩
    · intro documentID member
      exact List.mem_append_left _ (kept member)
    · intro documentID member
      exact List.mem_append_right _ ((polls_begin_listens s e).subset member)

theorem single_step (F : Frameworks) {s s' : HomePage} {e : Event} (single : Single s)
    (known : s.polled ⊆ s.listened) (enabled : s.Enabled e) (stepped : s.step F e = some s') :
    Single s' ↔ s.Fresh e := by
  obtain ⟨stops, times, timers⟩ := registered_step F (next_of_step F enabled stepped)
  obtain ⟨collection, onceListened, oncePolled⟩ := single_iff_nodup.1 single
  -- the timers repeat nothing if the listeners do not
  have enough : Single s' ↔ s.stopsListeners.length + (s.subscribes e).length ≤ 1 ∧
      ∀ id ∈ s.listens e, id ∉ s.listened := by
    rw [single_iff_nodup, stops, times, timers]
    refine and_congr_right fun _ => ?_
    constructor
    · rintro ⟨listeners, -⟩ id new old
      exact (List.nodup_append.1 listeners).2.2 id old id new rfl
    · intro fresh
      have apart : ∀ old ∈ s.listened, ∀ new ∈ s.listens e, old ≠ new := by
        rintro old before new after rfl
        exact fresh old after before
      have newOnce := listens_nodup enabled
      have begins := polls_begin_listens s e
      refine ⟨List.nodup_append.2 ⟨onceListened, newOnce, apart⟩,
        List.nodup_append.2 ⟨oncePolled, begins.sublist.nodup newOnce, ?_⟩⟩
      intro old before new after
      exact apart old (known before) new (begins.subset after)
  rw [enough]
  have subscribing : s.stopsListeners.length + (newStopsListener s.currentUser).length ≤ 1 ↔
      s.currentUser = none ∨ s.stopsListeners = [] := by
    cases s.currentUser with
    | none => simpa [newStopsListener] using collection
    | some uid => simp [newStopsListener]
  cases e with
  | getSavedStops => simpa [subscribes, listens, Fresh] using subscribing
  | refreshData => simpa [subscribes, listens, Fresh] using subscribing
  | stopsSnapshot k delivery =>
      cases delivery with
      | failed => simpa [subscribes, listens, Fresh] using collection
      | snapshot documents =>
          cases user : s.currentUser with
          | none => simpa [subscribes, listens, Fresh, newTimesListeners, user] using collection
          | some uid => simp [subscribes, listens, Fresh, newTimesListeners, user, collection]
  | _ => simpa [subscribes, listens, Fresh] using collection

/-- **When subscriptions and polls do not pile up.** -/
theorem single_iff (F : Frameworks) {history : Machine.History HomePage Event} {s : HomePage}
    (run : (homePage F).Run history s) :
    ((∀ x ∈ history, Single x.1) ∧ Single s) ↔ ∀ x ∈ history, Fresh x.1 x.2 := by
  apply Machine.Run.forall_states_iff _ _ run
  · rintro s ⟨currentUser, store, rfl⟩
    rw [viewDidLoad, getSavedStops_eq, single_iff_nodup]
    refine ⟨?_, List.nodup_nil, List.nodup_nil⟩
    cases currentUser <;> simp [newStopsListener]
  · intro history s e s' run single enabled stepped
    exact single_step F single (polled_is_listened F run) enabled stepped

/-- One snapshot of two stops, and their first responses. -/
theorem single_iff_first_snapshot :
    ∃ history s, (homePage .reference).Run history s ∧
      s.listened = ["a", "b"] ∧ s.polled = ["a", "b"] ∧
      (((∀ x ∈ history, Single x.1) ∧ Single s) ↔ ∀ x ∈ history, Fresh x.1 x.2) := by
  obtain ⟨history, s, run, -, seen⟩ := Machine.exec_reaches (M := homePage .reference)
    (fun _ s => (s.listened, s.polled)) ⟨some "u", .empty, rfl⟩
    [.stopsSnapshot 0 (.snapshot [sampleDocument "a", sampleDocument "b"]), .mainQueue,
      .response 0 .noData] (["a", "b"], ["a", "b"]) (by decide)
  rw [Prod.mk.injEq] at seen
  exact ⟨history, s, run, seen.1, seen.2, single_iff .reference run⟩

/-- The refuting pole: the page is told of one added stop.  Both collection listeners see
it, and it is listened to and polled twice. -/
theorem refresh_doubles_everything :
    ∃ history s, (homePage .reference).Run history s ∧
      s.stopsListeners.length = 2 ∧ s.listened.count "a" = 2 ∧ s.polled.count "a" = 2 ∧
      ¬ Single s := by
  obtain ⟨history, s, run, -, seen⟩ := Machine.exec_reaches (M := homePage .reference)
    (fun _ s => (s.stopsListeners.length, s.listened.count "a", s.polled.count "a"))
    ⟨some "u", .empty, rfl⟩
    [.stopsSnapshot 0 (.snapshot []), .refreshData,
      .stopsSnapshot 0 (.snapshot [sampleDocument "a"]),
      .stopsSnapshot 1 (.snapshot [sampleDocument "a"])] (2, 2, 2) (by decide)
  simp only [Prod.mk.injEq] at seen
  refine ⟨history, s, run, seen.1, seen.2.1, seen.2.2, fun single => ?_⟩
  have bound := single.collection
  rw [seen.1] at bound
  exact absurd bound (by decide)

end HomePage

end MindTheGap
