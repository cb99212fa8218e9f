/-
# HomePage.Effects -- what each function of the home page changes

Every function of the page is put in the form of one record update, and `Next` collects
them, one constructor for each thing a step can do.  `next_of_step` is the only proof
that unfolds the step; the invariants are proved by cases on `Next`.

The interesting one is the callback of `getSavedStops`.  Its loop registers a times
listener for a document *before* the guards, and the guards leave the callback and
not the iteration.  So it decodes the `leading` documents, those before the first
incomplete one; it registers listeners for those it `reached`, which is one more
when there is an incomplete one; and it queues the reload only if all of them are
`complete`.
-/
import MindTheGap.Model.HomePage

namespace MindTheGap

open MindTheGap.Theory

set_option autoImplicit false

/-- The stops decoded before the first incomplete document. -/
def leading : List QueryDocument → List SavedStop
  | [] => []
  | document :: documents =>
      match document.decode with
      | none => []
      | some stop => stop :: leading documents

/-- The documents the loop gets to: the leading ones and the first incomplete one. -/
def reached : List QueryDocument → List QueryDocument
  | [] => []
  | document :: documents =>
      match document.decode with
      | none => [document]
      | some _ => document :: reached documents

/-- Every document has all five fields. -/
def complete (documents : List QueryDocument) : Bool :=
  documents.all fun document => document.decode.isSome

theorem reached_sublist (documents : List QueryDocument) :
    (reached documents).Sublist documents := by
  induction documents with
  | nil => exact List.Sublist.slnil
  | cons document documents ih =>
      cases decoded : document.decode with
      | none =>
          simp only [reached, decoded]
          exact (List.nil_sublist documents).cons_cons document
      | some stop =>
          simp only [reached, decoded]
          exact ih.cons_cons document

/-- The ids of the leading stops begin the list of reached ids. -/
theorem leading_begins_reached (documents : List QueryDocument) :
    (leading documents).map SavedStop.documentID <+:
      (reached documents).map QueryDocument.documentID := by
  induction documents with
  | nil => exact List.prefix_rfl
  | cons document documents ih =>
      cases decoded : document.decode with
      | none => simp [leading, decoded]
      | some stop =>
          have named := QueryDocument.decode_documentID decoded
          simpa [leading, reached, decoded, named] using ih

theorem leading_nodup {documents : List QueryDocument}
    (distinct : (documents.map QueryDocument.documentID).Nodup) :
    ((leading documents).map SavedStop.documentID).Nodup := by
  have once := ((reached_sublist documents).map QueryDocument.documentID).nodup distinct
  exact (leading_begins_reached documents).sublist.nodup once

theorem complete_cons {document : QueryDocument} {documents : List QueryDocument}
    (full : complete (document :: documents) = true) :
    (∃ stop, document.decode = some stop) ∧ complete documents = true := by
  rw [complete, List.all_cons, Bool.and_eq_true] at full
  exact ⟨Option.isSome_iff_exists.1 full.1, full.2⟩

theorem reached_of_complete {documents : List QueryDocument} (full : complete documents = true) :
    reached documents = documents := by
  induction documents with
  | nil => rfl
  | cons document documents ih =>
      obtain ⟨⟨stop, decoded⟩, rest⟩ := complete_cons full
      simp [reached, decoded, ih rest]

theorem leading_of_complete {documents : List QueryDocument} (full : complete documents = true) :
    leading documents = documents.filterMap QueryDocument.decode := by
  induction documents with
  | nil => rfl
  | cons document documents ih =>
      obtain ⟨⟨stop, decoded⟩, rest⟩ := complete_cons full
      simp [leading, decoded, ih rest]

/-- A document with all five fields. -/
def sampleDocument (documentID : String) : QueryDocument where
  documentID := documentID
  data := Doc.empty.merge
    [("line", .string "Victoria"), ("lowercaseline", .string "victoria"),
      ("direction", .string "Northbound - Platform 3"), ("naptanID", .string "940GZZLUVIC"),
      ("stationName", .string "Victoria Underground Station")]

namespace HomePage

/-- Two rows with their times. -/
def twoRows : HomePage where
  currentUser := some "u"
  finalTableArray :=
    [⟨none, none, none, none, none, some "a"⟩, ⟨none, none, none, none, none, some "b"⟩]
  timeArray := [⟨"a", readTimes none⟩, ⟨"b", readTimes none⟩]
  store := .empty

/-- Two stops are listed, and the times of each are delivered and appended. -/
def bothArrived : List Event :=
  [.stopsSnapshot 0 (.snapshot [sampleDocument "a", sampleDocument "b"]),
    .timesSnapshot 0 (.snapshot ⟨⟨"u", "a"⟩, none⟩),
    .timesSnapshot 1 (.snapshot ⟨⟨"u", "b"⟩, none⟩), .mainQueue, .mainQueue, .mainQueue]

end HomePage

/-- The entry a queued closure appends. -/
def Task.entry : Task → Option TimesEntry
  | .appendTimes documentName times => some ⟨documentName, times⟩
  | _ => none

namespace HomePage

/-! ## What is registered and issued -/

def newStopsListener (user : Option String) : List StopsListener :=
  (user.map fun uid => (⟨uid, false⟩ : StopsListener)).toList

/-- A listener for every reached document; none when nobody is signed in. -/
def newTimesListeners (user : Option String) (documents : List QueryDocument) :
    List TimesListener :=
  match user with
  | none => []
  | some uid => (reached documents).map fun document => ⟨⟨uid, document.documentID⟩, false⟩

/-- A poll for every leading stop; none when nobody is signed in. -/
def newPolls (user : Option String) (documents : List QueryDocument) : List Poll :=
  match user with
  | none => []
  | some uid => (leading documents).map fun stop => stop.poll uid

/-- The requests `getTrainTimes` issues for some polls. -/
def newRequests (F : Frameworks) (fetch : Fetch) (polls : List Poll) : List Request :=
  (polls.filter fun poll => F.urlBuilds (arrivalsURL poll.line poll.naptan)).map
    fun poll => ⟨poll, fetch, false⟩

/-- The field `timer` after timers for some polls were scheduled behind `scheduled`
others: it keeps the newest one only. -/
def timerAfter (timer : Option Nat) (scheduled : Nat) : List Poll → Option Nat
  | [] => timer
  | _ :: rest => some (scheduled + rest.length)

theorem timerAfter_append (timer : Option Nat) (scheduled : Nat) (polls polls' : List Poll) :
    timerAfter (timerAfter timer scheduled polls) (scheduled + polls.length) polls' =
      timerAfter timer scheduled (polls ++ polls') := by
  cases polls with
  | nil => rfl
  | cons poll polls =>
      cases polls' with
      | nil => simp [timerAfter]
      | cons poll' polls' =>
          simp only [timerAfter, List.cons_append, List.length_append, List.length_cons,
            Option.some.injEq]
          omega

variable (F : Frameworks)

/-! ## The functions as record updates -/

theorem getSavedStops_eq (s : HomePage) : s.getSavedStops =
    { s with stopsListeners := s.stopsListeners ++ newStopsListener s.currentUser } := by
  rcases s with ⟨_ | uid⟩ <;> simp [getSavedStops, newStopsListener]

theorem refreshData_eq (s : HomePage) : s.refreshData =
    { s with
      finalTableArray := []
      timeArray := []
      stopsListeners := s.stopsListeners ++ newStopsListener s.currentUser } := by
  rw [refreshData, getSavedStops_eq]

theorem getTrainTimes_eq (s : HomePage) (poll : Poll) (fetch : Fetch) :
    s.getTrainTimes F poll fetch =
      { s with requests := s.requests ++ newRequests F fetch [poll] } := by
  unfold getTrainTimes newRequests
  split <;> rename_i builds <;> simp [builds]

theorem getTimes_eq (s : HomePage) (document : QueryDocument) :
    s.getTimes document.documentID =
      { s with timesListeners := s.timesListeners ++
          (s.currentUser.map fun uid =>
            (⟨⟨uid, document.documentID⟩, false⟩ : TimesListener)).toList } := by
  rcases s with ⟨_ | uid⟩ <;> simp [getTimes]

theorem updateTubeTimes_eq (s : HomePage) (stop : SavedStop) :
    s.updateTubeTimes F stop.naptan stop.lineLowerCase stop.documentID stop.direction =
      { s with
        timers := s.timers ++ (s.currentUser.map stop.poll).toList
        timer := timerAfter s.timer s.timers.length (s.currentUser.map stop.poll).toList
        requests := s.requests ++ newRequests F .first (s.currentUser.map stop.poll).toList } := by
  rcases s with ⟨_ | uid⟩ <;>
    simp [updateTubeTimes, getTrainTimes_eq, timerAfter, newRequests, SavedStop.poll]

theorem newTimesListeners_cons {document : QueryDocument} {stop : SavedStop}
    (decoded : document.decode = some stop) (user : Option String)
    (documents : List QueryDocument) :
    newTimesListeners user (document :: documents) =
      (user.map fun uid => (⟨⟨uid, document.documentID⟩, false⟩ : TimesListener)).toList ++
        newTimesListeners user documents := by
  cases user <;> simp [newTimesListeners, reached, decoded]

theorem newPolls_cons {document : QueryDocument} {stop : SavedStop}
    (decoded : document.decode = some stop) (user : Option String)
    (documents : List QueryDocument) :
    newPolls user (document :: documents) =
      (user.map stop.poll).toList ++ newPolls user documents := by
  cases user <;> simp [newPolls, leading, decoded]

theorem newRequests_append (fetch : Fetch) (polls polls' : List Poll) :
    newRequests F fetch (polls ++ polls') =
      newRequests F fetch polls ++ newRequests F fetch polls' := by
  simp [newRequests]

theorem savedStopsLoop_eq (s : HomePage) (documents : List QueryDocument) :
    s.savedStopsLoop F documents =
      ({ s with
         finalTableArray := s.finalTableArray ++ (leading documents).map SavedStop.row
         timesListeners := s.timesListeners ++ newTimesListeners s.currentUser documents
         timers := s.timers ++ newPolls s.currentUser documents
         timer := timerAfter s.timer s.timers.length (newPolls s.currentUser documents)
         requests := s.requests ++ newRequests F .first (newPolls s.currentUser documents) },
       complete documents) := by
  induction documents generalizing s with
  | nil =>
      rcases s with ⟨_ | uid⟩ <;>
        simp [savedStopsLoop, leading, newTimesListeners, reached, newPolls, newRequests,
          timerAfter, complete]
  | cons document documents ih =>
      cases decoded : document.decode with
      | none =>
          rcases s with ⟨_ | uid⟩ <;>
            simp [savedStopsLoop, getTimes_eq, decoded, leading, newTimesListeners, reached,
              newPolls, newRequests, timerAfter, complete]
      | some stop =>
          -- the document's own listener, poll and row come first, then the rest of the loop
          simp only [savedStopsLoop, decoded, getTimes_eq, updateTubeTimes_eq, ih,
            newTimesListeners_cons decoded, newPolls_cons decoded, newRequests_append]
          simp [leading, complete, decoded, ← timerAfter_append]

/-- **The callback of `getSavedStops` on a snapshot, in closed form.** -/
theorem savedStopsListener_snapshot (s : HomePage) (documents : List QueryDocument) :
    s.savedStopsListener F (.snapshot documents) =
      { s with
        finalTableArray := (leading documents).map SavedStop.row
        timeArray := []
        timesListeners := s.timesListeners ++
          newTimesListeners s.currentUser documents
        timers := s.timers ++ newPolls s.currentUser documents
        timer := timerAfter s.timer s.timers.length (newPolls s.currentUser documents)
        requests := s.requests ++
          newRequests F .first (newPolls s.currentUser documents)
        mainQueue := s.mainQueue ++
          if complete documents then [.reloadData] else [] } := by
  simp only [savedStopsListener, savedStopsLoop_eq]
  cases complete documents <;> simp

theorem savedStopsListener_failed (s : HomePage) :
    s.savedStopsListener F .failed = { s with finalTableArray := [], timeArray := [] } := rfl

/-- The writes of the completion of a request, or its trap. -/
def requestWrites (request : Request) (times : List TubeTimes) : Option (List Data) :=
  (F.sortByTime times).bind (request.fetch.pass request.poll.direction)

theorem completion_eq (s : HomePage) (request : Request) (times : List TubeTimes) :
    s.completion F request times = (requestWrites F request times).map fun writes =>
      { s with store := s.store.setArrivalTimes request.poll.ref writes } := by
  cases sorts : F.sortByTime times with
  | none => simp [completion, requestWrites, sorts]
  | some sorted =>
      cases ran : request.fetch.pass request.poll.direction sorted <;>
        simp [completion, requestWrites, sorts, ran]

/-- What handling a response changes: the request is answered, and if the callback
handed on an array, the writes of its completion go to the poll's document. -/
theorem answer_cases {s s' : HomePage} {k : Nat} {response : Response TubeTimes}
    {request : Request} (issued : s.requests[k]? = some request)
    (handled : s.answer F k response = some s') :
    (response.records = none ∧
      s' = { s with requests := s.requests.set k { request with answered := true } }) ∨
    ∃ times writes, response.records = some times ∧
      requestWrites F request times = some writes ∧
      s' = { s with
        requests := s.requests.set k { request with answered := true }
        store := s.store.setArrivalTimes request.poll.ref writes } := by
  simp only [answer, issued] at handled
  cases records : response.records with
  | none =>
      simp only [records, Option.some.injEq] at handled
      exact Or.inl ⟨rfl, handled.symm⟩
  | some times =>
      simp only [records, completion_eq, Option.map_eq_some_iff] at handled
      obtain ⟨writes, ran, rfl⟩ := handled
      exact Or.inr ⟨times, writes, rfl, ran, rfl⟩

/-- The stop a tap on the delete area is for. -/
def tappedStop (s : HomePage) (indexPath : Option Nat) : Option DocRef := do
  let uid ← s.currentUser
  let item ← indexPath
  let row ← s.finalTableArray[item]?
  let docID ← row.documentID
  return ⟨uid, docID⟩

theorem tappedStop_eq_some {s : HomePage} {indexPath : Option Nat} {ref : DocRef} :
    s.tappedStop indexPath = some ref ↔ s.currentUser = some ref.uid ∧ ∃ item row,
      indexPath = some item ∧ s.finalTableArray[item]? = some row ∧
        row.documentID = some ref.documentID := by
  simp only [tappedStop, Option.bind_eq_bind, Option.bind_eq_some_iff, Option.pure_def,
    Option.some.injEq]
  constructor
  · rintro ⟨uid, user, item, isItem, row, isRow, docID, named, rfl⟩
    exact ⟨user, item, row, isItem, isRow, named⟩
  · rintro ⟨user, item, row, isItem, isRow, named⟩
    exact ⟨_, user, item, isItem, row, isRow, _, named, rfl⟩

/-- A tap on the delete area either changes nothing or removes the tapped row and
deletes its two documents. -/
theorem hiddenContainerViewTapped_cases {s s' : HomePage} {indexPath : Option Nat}
    (tapped : s.hiddenContainerViewTapped indexPath = some s') :
    (s.tappedStop indexPath = none ∧ s' = s) ∨
    ∃ item ref, indexPath = some item ∧ s.tappedStop indexPath = some ref ∧
      s' = { s with
        finalTableArray := s.finalTableArray.eraseIdx item
        shown := (s.finalTableArray.eraseIdx item).map TableArray.documentID
        store := (s.store.deleteStop ref).deleteArrivalTimes ref
        mainQueue := s.mainQueue ++ [.reloadAndLayout] } := by
  cases user : s.currentUser with
  | none =>
      simp only [hiddenContainerViewTapped, user, Option.some.injEq] at tapped
      exact Or.inl ⟨by simp [tappedStop, user], tapped.symm⟩
  | some uid =>
      cases indexPath with
      | none =>
          simp only [hiddenContainerViewTapped, user, Option.some.injEq] at tapped
          exact Or.inl ⟨by simp [tappedStop], tapped.symm⟩
      | some item =>
          cases found : s.finalTableArray[item]? with
          | none => simp [hiddenContainerViewTapped, user, found] at tapped
          | some row =>
              cases named : row.documentID with
              | none =>
                  simp only [hiddenContainerViewTapped, user, found, named,
                    Option.some.injEq] at tapped
                  exact Or.inl ⟨by simp [tappedStop, found, named], tapped.symm⟩
              | some docID =>
                  simp only [hiddenContainerViewTapped, user, found, named, reloadData,
                    Option.some.injEq] at tapped
                  refine Or.inr ⟨item, ⟨uid, docID⟩, rfl, ?_, tapped.symm⟩
                  simp [tappedStop, user, found, named]

/-- A move that does not trap is within both arrays and moves the same positions of
both. -/
theorem moveItemAt_cases {s s' : HomePage} {source destination : Nat}
    (moved : s.moveItemAt source destination = some s') :
    ∃ row entry, s.finalTableArray[source]? = some row ∧ s.timeArray[source]? = some entry ∧
      destination < s.finalTableArray.length ∧ destination < s.timeArray.length ∧
      s' = { s with
        finalTableArray := (s.finalTableArray.eraseIdx source).insertIdx destination row
        timeArray := (s.timeArray.eraseIdx source).insertIdx destination entry
        shown := ((s.finalTableArray.eraseIdx source).insertIdx destination row).map
          TableArray.documentID } := by
  simp only [moveItemAt, insertAt, Option.bind_eq_bind, Option.bind_eq_some_iff, Prod.exists,
    removeAt_eq_some, Option.pure_def, Option.some.injEq] at moved
  obtain ⟨row, rest, ⟨foundRow, rfl⟩, entry, rest', ⟨foundEntry, rfl⟩,
    rows, insertedRow, times, insertedEntry, rfl⟩ := moved
  have lessRows := List.length_eraseIdx_add_one (List.getElem?_eq_some_iff.1 foundRow).1
  have lessTimes := List.length_eraseIdx_add_one (List.getElem?_eq_some_iff.1 foundEntry).1
  split at insertedRow
  · split at insertedEntry
    · cases insertedRow
      cases insertedEntry
      exact ⟨_, _, foundRow, foundEntry, by omega, by omega, rfl⟩
    · cases insertedEntry
  · cases insertedRow

theorem timerFired_eq (s : HomePage) (k : Nat) : s.timerFired F k =
    { s with requests := s.requests ++ newRequests F .timer s.timers[k]?.toList } := by
  cases found : s.timers[k]? with
  | none => simp [timerFired, newRequests, found]
  | some poll => simp [timerFired, getTrainTimes_eq, found]

theorem runMainQueue_cons {s : HomePage} {task : Task} {tasks : List Task}
    (queue : s.mainQueue = task :: tasks) :
    s.runMainQueue = runTask { s with mainQueue := tasks } task := by
  rw [runMainQueue, queue]

/-- Closures of the main queue change the times and what is shown, nothing else. -/
theorem runTask_eq (s : HomePage) (task : Task) :
    s.runTask task =
      { s with
        timeArray := s.timeArray ++ task.entry.toList
        shown := s.finalTableArray.map TableArray.documentID } := by
  cases task <;> simp [runTask, reloadData, Task.entry]

/-- The entry a step is about to append. -/
def appending (s : HomePage) : Event → Option TimesEntry
  | .mainQueue => s.mainQueue.head?.bind Task.entry
  | _ => none

/-! ## The steps -/

/-- Every step of the page that does not trap, with the state it leaves.  What holds of a
run is proved by cases on this. -/
inductive Next (s : HomePage) : Event → HomePage → Prop
  | getSavedStops : Next s .getSavedStops
      { s with stopsListeners := s.stopsListeners ++ newStopsListener s.currentUser }
  | refreshData : Next s .refreshData
      { s with
        finalTableArray := []
        timeArray := []
        stopsListeners := s.stopsListeners ++ newStopsListener s.currentUser }
  | stopsFailed (k : Nat) : Next s (.stopsSnapshot k .failed)
      { s with
        stopsListeners := s.stopsListeners.modify k fun listener => { listener with fired := true }
        finalTableArray := []
        timeArray := [] }
  | stopsSnapshot (k : Nat) (documents : List QueryDocument)
      (distinct : (documents.map QueryDocument.documentID).Nodup) :
      Next s (.stopsSnapshot k (.snapshot documents))
        { s with
          stopsListeners :=
            s.stopsListeners.modify k fun listener => { listener with fired := true }
          finalTableArray := (leading documents).map SavedStop.row
          timeArray := []
          timesListeners := s.timesListeners ++ newTimesListeners s.currentUser documents
          timers := s.timers ++ newPolls s.currentUser documents
          timer := timerAfter s.timer s.timers.length (newPolls s.currentUser documents)
          requests := s.requests ++ newRequests F .first (newPolls s.currentUser documents)
          mainQueue := s.mainQueue ++ if complete documents then [.reloadData] else [] }
  | timesFailed (k : Nat) : Next s (.timesSnapshot k .failed)
      { s with
        timesListeners :=
          s.timesListeners.modify k fun listener => { listener with fired := true } }
  | timesSnapshot (k : Nat) (contents : DocumentSnapshot)
      (own : (s.timesListeners[k]?.map TimesListener.ref) = some contents.ref) :
      Next s (.timesSnapshot k (.snapshot contents))
        { s with
          timesListeners :=
            s.timesListeners.modify k fun listener => { listener with fired := true }
          mainQueue := s.mainQueue ++
            [.appendTimes contents.ref.documentID (readTimes contents.data)] }
  | mainQueue (task : Task) (tasks : List Task) (queue : s.mainQueue = task :: tasks) :
      Next s .mainQueue
        { s with
          mainQueue := tasks
          timeArray := s.timeArray ++ task.entry.toList
          shown := s.finalTableArray.map TableArray.documentID }
  | timerFired (k : Nat) : Next s (.timerFired k)
      { s with requests := s.requests ++ newRequests F .timer s.timers[k]?.toList }
  | noData (k : Nat) (response : Response TubeTimes) (request : Request)
      (issued : s.requests[k]? = some request) (records : response.records = none) :
      Next s (.response k response)
        { s with requests := s.requests.set k { request with answered := true } }
  | response (k : Nat) (response : Response TubeTimes) (request : Request)
      (times : List TubeTimes) (writes : List Data) (issued : s.requests[k]? = some request)
      (records : response.records = some times)
      (ran : requestWrites F request times = some writes) :
      Next s (.response k response)
        { s with
          requests := s.requests.set k { request with answered := true }
          store := s.store.setArrivalTimes request.poll.ref writes }
  | tapIgnored (indexPath : Option Nat) (nothing : s.tappedStop indexPath = none) :
      Next s (.hiddenContainerViewTapped indexPath) s
  | deleted (item : Nat) (ref : DocRef) (isTapped : s.tappedStop (some item) = some ref) :
      Next s (.hiddenContainerViewTapped (some item))
        { s with
          finalTableArray := s.finalTableArray.eraseIdx item
          shown := (s.finalTableArray.eraseIdx item).map TableArray.documentID
          store := (s.store.deleteStop ref).deleteArrivalTimes ref
          mainQueue := s.mainQueue ++ [.reloadAndLayout] }
  | moved (source destination : Nat) (row : TableArray) (entry : TimesEntry)
      (foundRow : s.finalTableArray[source]? = some row)
      (foundEntry : s.timeArray[source]? = some entry)
      (inRows : destination < s.finalTableArray.length)
      (inTimes : destination < s.timeArray.length) :
      Next s (.moveItemAt source destination)
        { s with
          finalTableArray := (s.finalTableArray.eraseIdx source).insertIdx destination row
          timeArray := (s.timeArray.eraseIdx source).insertIdx destination entry
          shown := ((s.finalTableArray.eraseIdx source).insertIdx destination row).map
            TableArray.documentID }
  | authChanged (uid : Option String) : Next s (.authChanged uid) { s with currentUser := uid }

/-- **What a step can do.** -/
theorem next_of_step {s s' : HomePage} {e : Event} (enabled : s.Enabled e)
    (stepped : s.step F e = some s') : Next F s e s' := by
  cases e with
  | getSavedStops =>
      rw [step, getSavedStops_eq, Option.some.injEq] at stepped
      subst stepped
      exact .getSavedStops
  | refreshData =>
      rw [step, refreshData_eq, Option.some.injEq] at stepped
      subst stepped
      exact .refreshData
  | stopsSnapshot k delivery =>
      cases delivery with
      | failed =>
          rw [step, savedStopsListener_failed, Option.some.injEq] at stepped
          subst stepped
          exact .stopsFailed k
      | snapshot documents =>
          rw [step, savedStopsListener_snapshot, Option.some.injEq] at stepped
          subst stepped
          exact .stopsSnapshot k documents enabled.2
  | timesSnapshot k delivery =>
      rw [step, Option.some.injEq] at stepped
      subst stepped
      cases delivery with
      | failed => exact .timesFailed k
      | snapshot contents => exact .timesSnapshot k contents enabled
  | mainQueue =>
      obtain ⟨task, tasks, queue⟩ := List.exists_cons_of_ne_nil enabled
      rw [step, runMainQueue_cons queue, runTask_eq, Option.some.injEq] at stepped
      subst stepped
      exact .mainQueue task tasks queue
  | timerFired k =>
      rw [step, timerFired_eq, Option.some.injEq] at stepped
      subst stepped
      exact .timerFired k
  | response k response =>
      obtain ⟨request, issued, -⟩ := Option.map_eq_some_iff.1 enabled
      rcases answer_cases F issued stepped with ⟨records, rfl⟩ | ⟨times, writes, records, ran, rfl⟩
      · exact .noData k response request issued records
      · exact .response k response request times writes issued records ran
  | hiddenContainerViewTapped indexPath =>
      rcases hiddenContainerViewTapped_cases stepped with
        ⟨nothing, rfl⟩ | ⟨item, ref, rfl, isTapped, rfl⟩
      · exact .tapIgnored indexPath nothing
      · exact .deleted item ref isTapped
  | moveItemAt source destination =>
      obtain ⟨row, entry, foundRow, foundEntry, inRows, inTimes, rfl⟩ := moveItemAt_cases stepped
      exact .moved source destination row entry foundRow foundEntry inRows inTimes
  | authChanged uid =>
      cases stepped
      exact .authChanged uid

end HomePage

end MindTheGap
