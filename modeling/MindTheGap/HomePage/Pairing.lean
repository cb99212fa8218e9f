/-
# HomePage.Pairing -- rows and times, two arrays filled by independent callbacks

A row of the page is `finalTableArray[i]` beside `timeArray[i]`.  The collection
listener rebuilds the rows at once; the times arrive one at a time, from listeners
that are never removed, and are appended without a key.  They should stay `Paired`,
and once nothing is pending every row should have its one entry, carrying what was
delivered last for its document (`Filled`).

`appendTimes` runs `InPlace` when its document is that of the first row without
times, or when every row has its times and a collection delivery, which clears both
arrays, is still to come.  Any other append is the defect: it lands beside another
stop's row, or it is a second entry that stays.  `filled_of_inPlace` shows that a
run whose appends are all in place keeps the two arrays paired and fills them.

The invariant behind it (`Tracked`) accounts for the rows without times: each is
owed by a listener that has not fired or by a queued append, and the last queued
append of a document is the last one delivered.
-/
import MindTheGap.HomePage.Effects

namespace MindTheGap

open MindTheGap.Theory

set_option autoImplicit false

/-- The entry a delivered times snapshot is to become. -/
def Event.delivered : Event → Option TimesEntry
  | .timesSnapshot _ (.snapshot contents) =>
      some ⟨contents.ref.documentID, readTimes contents.data⟩
  | _ => none

/-- No delete, no move, no change of user, and no failed times listener. -/
def Event.undisturbed : Event → Bool
  | .timesSnapshot _ .failed => false
  | .hiddenContainerViewTapped _ => false
  | .moveItemAt _ _ => false
  | .authChanged _ => false
  | _ => true

/-- The first entry of a document, in a list that has the newest first. -/
def newestOf (documentName : String) (entries : List TimesEntry) : Option TimesEntry :=
  entries.find? fun entry => entry.documentName == documentName

/-- What the times listeners were called with, newest first. -/
def deliveries (history : Machine.History HomePage Event) : List TimesEntry :=
  history.filterMap fun x => x.2.delivered

theorem newestOf_mem {documentName : String} {entries : List TimesEntry} {entry : TimesEntry}
    (found : newestOf documentName entries = some entry) :
    entry ∈ entries ∧ entry.documentName = documentName :=
  ⟨List.mem_of_find?_eq_some found, by simpa using List.find?_some found⟩

theorem newestOf_cons (documentName : String) (entry : TimesEntry) (entries : List TimesEntry) :
    newestOf documentName (entry :: entries) =
      if entry.documentName = documentName then some entry else newestOf documentName entries := by
  by_cases same : entry.documentName = documentName
  · rw [if_pos same, newestOf, List.find?_cons_of_pos (by simpa using same)]
  · rw [if_neg same, newestOf, List.find?_cons_of_neg (by simpa using same), newestOf]

/-- An entry after all the others counts only when none of them is of the document. -/
theorem newestOf_concat (documentName : String) (entry : TimesEntry) (entries : List TimesEntry) :
    newestOf documentName (entries ++ [entry]) =
      (newestOf documentName entries).or
        (if entry.documentName = documentName then some entry else none) := by
  rw [newestOf, List.find?_append, ← newestOf, ← newestOf, newestOf_cons]
  rfl

/-- One listener of a list was called: any other is still there. -/
theorem mem_modify_of_mem {α : Type} {xs : List α} {x : α} (member : x ∈ xs) (k : Nat)
    (f : α → α) : x ∈ xs.modify k f ∨ xs[k]? = some x := by
  obtain ⟨j, found⟩ := List.mem_iff_getElem?.1 member
  by_cases same : k = j
  · rw [same]
    exact Or.inr found
  · refine Or.inl (List.mem_iff_getElem?.2 ⟨j, ?_⟩)
    rw [List.getElem?_modify, found]
    simp [same]

namespace HomePage

/-- The appends waiting on the main thread, oldest first. -/
def queued (s : HomePage) : List TimesEntry :=
  s.mainQueue.filterMap Task.entry

/-- A registered collection listener has not been called yet. -/
def CollectionPending (s : HomePage) : Prop :=
  ∃ listener ∈ s.stopsListeners, listener.fired = false

/-- No delivery and no append is pending. -/
structure Quiet (s : HomePage) : Prop where
  stops : ∀ listener ∈ s.stopsListeners, listener.fired = true
  times : ∀ listener ∈ s.timesListeners, listener.fired = true
  appends : s.queued = []

/-- Wherever there is both a row and an entry, they are of one document. -/
def Paired (s : HomePage) : Prop :=
  ∀ (i : Nat) (row : TableArray) (entry : TimesEntry), s.finalTableArray[i]? = some row →
    s.timeArray[i]? = some entry → row.documentID = some entry.documentName

/-- Every row has one entry, which is the last delivered of its document. -/
structure Filled (history : Machine.History HomePage Event) (s : HomePage) : Prop where
  entries : s.timeArray.map (fun entry => some entry.documentName) =
    s.finalTableArray.map TableArray.documentID
  once : (s.finalTableArray.map TableArray.documentID).Nodup
  newest : ∀ entry ∈ s.timeArray,
    newestOf entry.documentName (deliveries history) = some entry

/-- The runs in question are of one signed-in user, whose page subscribes, receives
snapshots and responses, and runs its closures. -/
def Undisturbed (uid : String) (s : HomePage) (e : Event) : Prop :=
  s.currentUser = some uid ∧ e.undisturbed = true

/-- An append about to run is of the first row without times, or there is no such row
and the arrays are about to be cleared. -/
def InPlace (s : HomePage) (e : Event) : Prop :=
  ∀ entry ∈ s.appending e,
    (∃ row ∈ s.finalTableArray[s.timeArray.length]?,
      row.documentID = some entry.documentName) ∨
    (s.finalTableArray.length ≤ s.timeArray.length ∧ s.CollectionPending)

/-- What a run with appends in place keeps. -/
structure Tracked (history : Machine.History HomePage Event) (s : HomePage) : Prop where
  paired : s.Paired
  once : (s.finalTableArray.map TableArray.documentID).Nodup
  /-- Surplus entries stand only until the next collection snapshot. -/
  room : s.timeArray.length ≤ s.finalTableArray.length ∨ s.CollectionPending
  /-- A row without times has them coming. -/
  owed : ∀ i row, s.timeArray.length ≤ i → s.finalTableArray[i]? = some row →
    ∃ documentName, row.documentID = some documentName ∧
      ((∃ listener ∈ s.timesListeners,
          listener.fired = false ∧ listener.ref.documentID = documentName) ∨
        ∃ entry ∈ s.queued, entry.documentName = documentName)
  /-- The last queued append of a document is its last delivery. -/
  lastQueued : ∀ documentName entry, newestOf documentName s.queued.reverse = some entry →
    newestOf documentName (deliveries history) = some entry
  /-- An entry is the last delivery of its document unless a later one is queued. -/
  current : s.timeArray.length ≤ s.finalTableArray.length → ∀ entry ∈ s.timeArray,
    newestOf entry.documentName (deliveries history) = some entry ∨
      ∃ later ∈ s.queued, later.documentName = entry.documentName

variable {history : Machine.History HomePage Event} {s s' : HomePage} {e : Event}

/-- Steps that touch neither array, queue no append and leave the times listeners. -/
theorem Tracked.frame (tracked : Tracked history s) (rows : s'.finalTableArray = s.finalTableArray)
    (times : s'.timeArray = s.timeArray) (listeners : s'.timesListeners = s.timesListeners)
    (appends : s'.queued = s.queued) (pending : s.CollectionPending → s'.CollectionPending)
    (silent : e.delivered = none) : Tracked ((s, e) :: history) s' := by
  have same : deliveries ((s, e) :: history) = deliveries history := by
    simp [deliveries, silent]
  refine ⟨?_, ?_, ?_, ?_, ?_, ?_⟩
  · intro i row entry
    rw [rows, times]
    exact tracked.paired i row entry
  · rw [rows]
    exact tracked.once
  · rw [rows, times]
    exact tracked.room.imp_right pending
  · rw [rows, times, listeners, appends]
    exact tracked.owed
  · rw [appends, same]
    exact tracked.lastQueued
  · rw [rows, times, appends, same]
    exact tracked.current

/-- Steps that clear the times and rebuild the rows, each with a new listener. -/
theorem Tracked.rebuilt (tracked : Tracked history s) (times : s'.timeArray = [])
    (once : (s'.finalTableArray.map TableArray.documentID).Nodup)
    (watched : ∀ row ∈ s'.finalTableArray, ∃ listener ∈ s'.timesListeners,
      listener.fired = false ∧ row.documentID = some listener.ref.documentID)
    (appends : s'.queued = s.queued) (silent : e.delivered = none) :
    Tracked ((s, e) :: history) s' := by
  have same : deliveries ((s, e) :: history) = deliveries history := by
    simp [deliveries, silent]
  refine ⟨?_, once, ?_, ?_, ?_, ?_⟩
  · intro i row entry _ found
    simp [times] at found
  · rw [times]
    exact Or.inl (Nat.zero_le _)
  · intro i row _ found
    obtain ⟨listener, member, unfired, named⟩ := watched row (List.mem_of_getElem? found)
    exact ⟨_, named, Or.inl ⟨listener, member, unfired, rfl⟩⟩
  · rw [appends, same]
    exact tracked.lastQueued
  · intro _ entry member
    simp [times] at member

/-- A delivered times snapshot: the listener has fired, and its append is queued. -/
theorem Tracked.queue {entry : TimesEntry} {k : Nat} (tracked : Tracked history s)
    (rows : s'.finalTableArray = s.finalTableArray) (times : s'.timeArray = s.timeArray)
    (listeners : s'.timesListeners =
      s.timesListeners.modify k fun listener => { listener with fired := true })
    (named : ∀ listener, s.timesListeners[k]? = some listener →
      entry.documentName = listener.ref.documentID)
    (appends : s'.queued = s.queued ++ [entry])
    (pending : s.CollectionPending → s'.CollectionPending)
    (delivered : e.delivered = some entry) : Tracked ((s, e) :: history) s' := by
  have newer : deliveries ((s, e) :: history) = entry :: deliveries history := by
    simp [deliveries, delivered]
  have last : entry ∈ s'.queued := by simp [appends]
  refine ⟨?_, ?_, ?_, ?_, ?_, ?_⟩
  · intro i row entry
    rw [rows, times]
    exact tracked.paired i row entry
  · rw [rows]
    exact tracked.once
  · rw [rows, times]
    exact tracked.room.imp_right pending
  · intro i row missing found
    rw [times] at missing
    rw [rows] at found
    obtain ⟨documentName, isRow, ⟨listener, member, unfired, ofRow⟩ | ⟨later, member, ofRow⟩⟩ :=
      tracked.owed i row missing found
    · refine ⟨documentName, isRow, ?_⟩
      -- the listener that fired owes an append instead
      rcases mem_modify_of_mem member k (fun listener => { listener with fired := true }) with
        kept | fired
      · exact Or.inl ⟨listener, by rwa [listeners], unfired, ofRow⟩
      · exact Or.inr ⟨entry, last, (named listener fired).trans ofRow⟩
    · refine ⟨documentName, isRow, Or.inr ⟨later, ?_, ofRow⟩⟩
      rw [appends]
      exact List.mem_append_left _ member
  · intro documentName found
    rw [appends, List.reverse_append, List.reverse_singleton, List.singleton_append, newer,
      newestOf_cons, newestOf_cons]
    split
    · exact id
    · exact tracked.lastQueued documentName found
  · intro fits earlier member
    rw [times, rows] at fits
    rw [times] at member
    by_cases same : entry.documentName = earlier.documentName
    · exact Or.inr ⟨entry, last, same⟩
    · rw [newer, newestOf_cons, if_neg same, appends]
      refine (tracked.current fits earlier member).imp_right ?_
      rintro ⟨later, queuedLater, ofEntry⟩
      exact ⟨later, List.mem_append_left _ queuedLater, ofEntry⟩

/-- The oldest queued append runs, in place. -/
theorem Tracked.append {entry : TimesEntry} (tracked : Tracked history s)
    (rows : s'.finalTableArray = s.finalTableArray) (times : s'.timeArray = s.timeArray ++ [entry])
    (listeners : s'.timesListeners = s.timesListeners) (appends : s.queued = entry :: s'.queued)
    (pending : s.CollectionPending → s'.CollectionPending)
    (inPlace : (∃ row ∈ s.finalTableArray[s.timeArray.length]?,
        row.documentID = some entry.documentName) ∨
      (s.finalTableArray.length ≤ s.timeArray.length ∧ s.CollectionPending))
    (silent : e.delivered = none) : Tracked ((s, e) :: history) s' := by
  have same : deliveries ((s, e) :: history) = deliveries history := by
    simp [deliveries, silent]
  have longer : s'.timeArray.length = s.timeArray.length + 1 := by simp [times]
  -- the append that runs is the last of its document unless another is queued behind it
  have last : newestOf entry.documentName (deliveries history) = some entry ∨
      ∃ later ∈ s'.queued, later.documentName = entry.documentName := by
    cases behind : newestOf entry.documentName s'.queued.reverse with
    | some later =>
        obtain ⟨member, named⟩ := newestOf_mem behind
        exact Or.inr ⟨later, List.mem_reverse.1 member, named⟩
    | none =>
        refine Or.inl (tracked.lastQueued _ _ ?_)
        rw [appends, List.reverse_cons, newestOf_concat, behind, if_pos rfl, Option.none_or]
  refine ⟨?_, ?_, ?_, ?_, ?_, ?_⟩
  · intro i row other foundRow foundEntry
    rw [rows] at foundRow
    rw [times, List.getElem?_append] at foundEntry
    split at foundEntry
    · exact tracked.paired i row other foundRow foundEntry
    · rename_i beyond
      obtain ⟨zero, rfl⟩ := List.getElem?_eq_some_iff.1 foundEntry
      have atEnd : i = s.timeArray.length := by simp at zero; omega
      subst atEnd
      rcases inPlace with ⟨first, found, named⟩ | ⟨noRow, -⟩
      · rw [Option.mem_def, foundRow, Option.some.injEq] at found
        simpa [found] using named
      · rw [List.getElem?_eq_none noRow] at foundRow
        cases foundRow
  · rw [rows]
    exact tracked.once
  · rcases inPlace with ⟨first, found, -⟩ | ⟨-, collection⟩
    · have inside := (List.getElem?_eq_some_iff.1 found).1
      left
      rw [longer, rows]
      omega
    · exact Or.inr (pending collection)
  · intro i row missing foundRow
    rw [longer] at missing
    rw [rows] at foundRow
    obtain ⟨documentName, isRow, coming⟩ := tracked.owed i row (by omega) foundRow
    refine ⟨documentName, isRow, ?_⟩
    rw [listeners]
    refine coming.imp_right ?_
    rintro ⟨later, member, ofRow⟩
    rw [appends, List.mem_cons] at member
    rcases member with rfl | member
    · -- the row just filled is an earlier row, and no id stands twice
      rcases inPlace with ⟨first, found, named⟩ | ⟨noRow, -⟩
      · have sameIndex := index_unique tracked.once foundRow found (by rw [isRow, named, ofRow])
        omega
      · rw [List.getElem?_eq_none (by omega)] at foundRow
        cases foundRow
    · exact ⟨later, member, ofRow⟩
  · intro documentName found
    rw [same]
    intro isLast
    apply tracked.lastQueued documentName found
    rw [appends, List.reverse_cons, newestOf_concat, isLast, Option.some_or]
  · intro fits other member
    rw [same]
    rw [longer, rows] at fits
    rw [times, List.mem_append, List.mem_singleton] at member
    rcases member with member | rfl
    · refine (tracked.current (by omega) other member).imp_right ?_
      rintro ⟨later, queuedLater, ofEntry⟩
      rw [appends, List.mem_cons] at queuedLater
      rcases queuedLater with rfl | queuedLater
      · -- then the entry stands beside an earlier row with the id of the row just filled
        rcases inPlace with ⟨first, found, named⟩ | ⟨noRow, -⟩
        · obtain ⟨j, foundEntry⟩ := List.mem_iff_getElem?.1 member
          have before := (List.getElem?_eq_some_iff.1 foundEntry).1
          have inside : j < s.finalTableArray.length := by omega
          have pairedRow := tracked.paired j _ other (List.getElem?_eq_getElem inside) foundEntry
          have sameIndex := index_unique tracked.once (List.getElem?_eq_getElem inside) found
            (by rw [pairedRow, named, ofEntry])
          omega
        · omega
      · exact ⟨later, queuedLater, ofEntry⟩
    · exact last

variable (F : Frameworks) {uid : String}

theorem tracked_viewDidLoad (currentUser : Option String) (store : Firestore) :
    Tracked [] (viewDidLoad currentUser store) := by
  rw [viewDidLoad, getSavedStops_eq]
  refine ⟨?_, List.nodup_nil, Or.inl (Nat.le_refl _), ?_, ?_, ?_⟩
  · intro i row entry found
    simp at found
  · intro i row _ found
    simp at found
  · intro documentName entry found
    cases found
  · intro _ entry member
    cases member

/-- A rebuilt row is watched: the loop registers the listener before the guards. -/
theorem newTimesListeners_watch (uid : String) (documents : List QueryDocument) {row : TableArray}
    (shown : row ∈ (leading documents).map SavedStop.row) :
    ∃ listener ∈ newTimesListeners (some uid) documents,
      listener.fired = false ∧ row.documentID = some listener.ref.documentID := by
  obtain ⟨stop, member, rfl⟩ := List.mem_map.1 shown
  have isReached := (leading_begins_reached documents).subset
    (List.mem_map_of_mem (f := SavedStop.documentID) member)
  obtain ⟨document, reachedDocument, named⟩ := List.mem_map.1 isReached
  refine ⟨⟨⟨uid, document.documentID⟩, false⟩, List.mem_map_of_mem reachedDocument, rfl, ?_⟩
  rw [named]
  rfl

theorem leading_rows_once {documents : List QueryDocument}
    (distinct : (documents.map QueryDocument.documentID).Nodup) :
    (((leading documents).map SavedStop.row).map TableArray.documentID).Nodup := by
  have once := (leading_nodup distinct).map (Option.some_injective String)
  rw [List.map_map] at once ⊢
  exact once

theorem Tracked.step (tracked : Tracked history s) (next : Next F s e s')
    (undisturbed : Undisturbed uid s e) (inPlace : s.InPlace e) :
    Tracked ((s, e) :: history) s' := by
  cases next with
  | getSavedStops =>
      refine tracked.frame rfl rfl rfl rfl ?_ rfl
      rintro ⟨listener, member, unfired⟩
      exact ⟨listener, List.mem_append_left _ member, unfired⟩
  | refreshData => exact tracked.rebuilt rfl List.nodup_nil (by simp) rfl rfl
  | stopsFailed k => exact tracked.rebuilt rfl List.nodup_nil (by simp) rfl rfl
  | stopsSnapshot k documents distinct =>
      have user : s.currentUser = some uid := undisturbed.1
      refine tracked.rebuilt rfl (leading_rows_once distinct) ?_ ?_ rfl
      · intro row shown
        obtain ⟨listener, member, unfired, named⟩ := newTimesListeners_watch uid documents shown
        refine ⟨listener, List.mem_append_right _ ?_, unfired, named⟩
        simpa only [user] using member
      · cases complete documents <;> simp [queued, Task.entry]
  | timesSnapshot k contents own =>
      refine tracked.queue (k := k) rfl rfl rfl ?_ ?_ id rfl
      · intro listener found
        rw [found, Option.map_some, Option.some.injEq] at own
        rw [own]
      · simp [queued, Task.entry]
  | mainQueue task tasks queue =>
      cases appended : task.entry with
      | none =>
          refine tracked.frame rfl ?_ rfl ?_ id rfl
          · simp
          · simp [queued, queue, appended]
      | some entry =>
          have head : entry ∈ s.appending .mainQueue := by simp [appending, queue, appended]
          refine tracked.append rfl ?_ rfl ?_ id (inPlace entry head) rfl
          · simp
          · simp [queued, queue, appended]
  | timerFired k => exact tracked.frame rfl rfl rfl rfl id rfl
  | noData k response request issued records => exact tracked.frame rfl rfl rfl rfl id rfl
  | response k response request times writes issued records ran =>
      exact tracked.frame rfl rfl rfl rfl id rfl
  | timesFailed k => cases undisturbed.2
  | tapIgnored indexPath nothing => cases undisturbed.2
  | deleted item ref isTapped => cases undisturbed.2
  | moved source destination row entry foundRow foundEntry inRows inTimes => cases undisturbed.2
  | authChanged uid => cases undisturbed.2

/-- A quiet page whose run was tracked has an entry for every row. -/
theorem Tracked.filled (tracked : Tracked history s) (quiet : s.Quiet) : Filled history s := by
  have fits : s.timeArray.length ≤ s.finalTableArray.length := by
    rcases tracked.room with fits | ⟨listener, member, unfired⟩
    · exact fits
    · rw [quiet.stops listener member] at unfired
      cases unfired
  have full : s.finalTableArray.length ≤ s.timeArray.length := by
    by_contra short
    have inside : s.timeArray.length < s.finalTableArray.length := by omega
    obtain ⟨_, -, ⟨listener, member, unfired, -⟩ | ⟨entry, member, -⟩⟩ :=
      tracked.owed _ _ (Nat.le_refl _) (List.getElem?_eq_getElem inside)
    · rw [quiet.times listener member] at unfired
      cases unfired
    · rw [quiet.appends] at member
      cases member
  refine ⟨?_, tracked.once, ?_⟩
  · apply List.ext_getElem
    · rw [List.length_map, List.length_map]
      omega
    intro i insideTimes insideRows
    rw [List.length_map] at insideTimes insideRows
    rw [List.getElem_map, List.getElem_map]
    exact (tracked.paired i _ _ (List.getElem?_eq_getElem insideRows)
      (List.getElem?_eq_getElem insideTimes)).symm
  · intro entry member
    rcases tracked.current fits entry member with newest | ⟨later, queuedLater, -⟩
    · exact newest
    · rw [quiet.appends] at queuedLater
      cases queuedLater

/-- **Appends in place keep the rows and the times paired, and fill them.** -/
theorem filled_of_inPlace (run : (homePage F).Run history s)
    (met : ∀ x ∈ history, Undisturbed uid x.1 x.2 ∧ InPlace x.1 x.2) :
    s.Paired ∧ (s.Quiet → Filled history s) := by
  have tracked : Tracked history s := by
    apply run.invariant_of (fun s e => Undisturbed uid s e ∧ InPlace s e) _ _ met
    · rintro s ⟨currentUser, store, rfl⟩
      exact tracked_viewDidLoad currentUser store
    · intro history s e s' _ tracked enabled ok stepped
      exact tracked.step F (next_of_step F enabled stepped) ok.1 ok.2
  exact ⟨tracked.paired, tracked.filled⟩

/-- The condition leaves out the defect only: an append out of place breaks the pairing
at once, or is an entry too many with no collection delivery to come that clears it. -/
theorem unpaired_or_surplus (next : Next F s e s') (out : ¬ s.InPlace e) :
    ¬ s'.Paired ∨
      (s'.finalTableArray.length < s'.timeArray.length ∧ ¬ s'.CollectionPending) := by
  simp only [InPlace, not_forall] at out
  obtain ⟨entry, appends, out⟩ := out
  rw [not_or] at out
  cases next with
  | mainQueue task tasks queue =>
      have appended : task.entry = some entry := by simpa [appending, queue] using appends
      by_cases inside : s.timeArray.length < s.finalTableArray.length
      · refine Or.inl fun paired => out.1 ⟨_, List.getElem?_eq_getElem inside, ?_⟩
        refine paired s.timeArray.length _ entry (List.getElem?_eq_getElem inside) ?_
        simp [appended]
      · refine Or.inr ⟨?_, fun pending => out.2 ⟨by omega, pending⟩⟩
        simp [appended]
        omega
  | _ => cases appends

/-- Two saved stops; `b` is delivered before `a` if `swapped`. -/
def twoStops (swapped : Bool) : List Event :=
  let a : DocumentSnapshot := ⟨⟨"u", "a"⟩, none⟩
  let b : DocumentSnapshot := ⟨⟨"u", "b"⟩, none⟩
  let deliveries : List Event :=
    if swapped then [.timesSnapshot 1 (.snapshot b), .timesSnapshot 0 (.snapshot a)]
    else [.timesSnapshot 0 (.snapshot a), .timesSnapshot 1 (.snapshot b)]
  .stopsSnapshot 0 (.snapshot [sampleDocument "a", sampleDocument "b"]) :: deliveries ++
    [.mainQueue, .mainQueue, .mainQueue]

instance (uid : String) (s : HomePage) (e : Event) : Decidable (Undisturbed uid s e) :=
  inferInstanceAs (Decidable (_ ∧ _))

instance (s : HomePage) : Decidable s.CollectionPending :=
  inferInstanceAs (Decidable (∃ listener ∈ _, _))

instance (s : HomePage) (e : Event) : Decidable (s.InPlace e) :=
  inferInstanceAs (Decidable (∀ entry ∈ _, _))

theorem filled_of_inPlace_two_stops :
    ∃ history s, (homePage .reference).Run history s ∧
      (∀ x ∈ history, Undisturbed "u" x.1 x.2 ∧ InPlace x.1 x.2) ∧
      s.Paired ∧ (s.Quiet → Filled history s) := by
  obtain ⟨history, s, run, -, met⟩ := Machine.exec_reaches (M := homePage .reference)
    (fun history _ => history.all fun x => decide (Undisturbed "u" x.1 x.2 ∧ InPlace x.1 x.2))
    ⟨some "u", .empty, rfl⟩ (twoStops false) true (by decide)
  have each : ∀ x ∈ history, Undisturbed "u" x.1 x.2 ∧ InPlace x.1 x.2 := by
    simpa using met
  exact ⟨history, s, run, each, filled_of_inPlace .reference run each⟩

/-- The refuting pole: the times of `b` land beside the row of `a`. -/
theorem times_of_another_row :
    ∃ history s, (homePage .reference).Run history s ∧
      (∀ x ∈ history, Undisturbed "u" x.1 x.2) ∧ ¬ s.Paired := by
  obtain ⟨history, s, run, -, met⟩ := Machine.exec_reaches (M := homePage .reference)
    (fun history s => (history.all fun x => decide (Undisturbed "u" x.1 x.2),
      s.finalTableArray[0]?.map TableArray.documentID, s.timeArray[0]?.map TimesEntry.documentName))
    ⟨some "u", .empty, rfl⟩ (twoStops true) (true, some (some "a"), some "b") (by decide)
  simp only [Prod.mk.injEq, Option.map_eq_some_iff] at met
  obtain ⟨each, ⟨row, isRow, named⟩, entry, isEntry, ofEntry⟩ := met
  refine ⟨history, s, run, by simpa using each, fun paired => ?_⟩
  have same := paired 0 row entry isRow isEntry
  rw [named, ofEntry] at same
  exact absurd same (by decide)

end HomePage

end MindTheGap
