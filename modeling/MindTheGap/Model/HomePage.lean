/-
# Model.HomePage -- the home page as an event machine

The state is what `HomePage` keeps and what it has set in motion: the two table
arrays, the registered snapshot listeners, the scheduled timers, the requests in
flight, and the closures queued on the main thread.  Nothing in the source removes
a listener or invalidates a timer, so those lists only grow and an index into them
names one listener, timer or request for good.

An event is one task of the main thread.  The callback of a data task decodes off
the main thread and touches nothing, so `response` is the closure it then
dispatches, run at whatever later time.  Closures that the page itself queues wait
in `mainQueue` and run oldest first.  `currentUser` is `Auth.auth().currentUser?.uid`,
which the environment may change at any time.

Two things are recorded that the page does not store: which document's snapshot
made an entry of `timeArray`, and `shown`, the ids of the rows as of the last
`reloadData`, batch update or completed move.  UIKit's own assertion on item counts
is not modelled: a run that would stop there goes on here.
-/
import MindTheGap.Theory.Machine
import MindTheGap.Model.Arrivals

namespace MindTheGap

open MindTheGap.Theory

set_option autoImplicit false

/-- An entry of `timeArray`, with the document whose snapshot produced it. -/
structure TimesEntry where
  documentName : String
  times : TimeDestination
deriving DecidableEq, Repr

/-- What the closures of one `updateTubeTimes` call capture. -/
structure Poll where
  ref : DocRef
  naptan : String
  line : String
  direction : String
deriving DecidableEq, Repr

/-- A request of `getTrainTimes`, with the completion it was issued with. -/
structure Request where
  poll : Poll
  fetch : Fetch
  answered : Bool
deriving DecidableEq, Repr

/-- A listener on a user's `saved-stops` collection. -/
structure StopsListener where
  uid : String
  fired : Bool
deriving DecidableEq, Repr

/-- A listener on one `times/arrival-times` document. -/
structure TimesListener where
  ref : DocRef
  fired : Bool
deriving DecidableEq, Repr

/-- A closure queued on the main thread. -/
inductive Task where
  /-- `self.stopcollectionview.reloadData()` -/
  | reloadData
  /-- `self.timeArray.append(times)`, then `reloadData()` -/
  | appendTimes (documentName : String) (times : TimeDestination)
  /-- `reloadData()`, then `layoutIfNeeded()` -/
  | reloadAndLayout
deriving DecidableEq, Repr

structure HomePage where
  currentUser : Option String
  finalTableArray : List TableArray := []
  timeArray : List TimesEntry := []
  timer : Option Nat := none
  shown : List (Option String) := []
  stopsListeners : List StopsListener := []
  timesListeners : List TimesListener := []
  timers : List Poll := []
  requests : List Request := []
  mainQueue : List Task := []
  store : Firestore

/-- The poll `updateTubeTimes` starts for a decoded stop. -/
def SavedStop.poll (stop : SavedStop) (uid : String) : Poll :=
  ⟨⟨uid, stop.documentID⟩, stop.naptan, stop.lineLowerCase, stop.direction⟩

namespace HomePage

variable (F : Frameworks)

/-! ## The functions of `HomePage.swift` -/

/-- `stopcollectionview.reloadData()`: the view asks the data source again. -/
def reloadData (s : HomePage) : HomePage :=
  { s with shown := s.finalTableArray.map TableArray.documentID }

def getSavedStops (s : HomePage) : HomePage :=
  match s.currentUser with
  | none => s
  | some uid => { s with stopsListeners := s.stopsListeners ++ [⟨uid, false⟩] }

def refreshData (s : HomePage) : HomePage :=
  getSavedStops { s with finalTableArray := [], timeArray := [] }

def getTimes (s : HomePage) (documentName : String) : HomePage :=
  match s.currentUser with
  | none => s
  | some uid =>
      { s with timesListeners := s.timesListeners ++ [⟨⟨uid, documentName⟩, false⟩] }

/-- The request is issued unless `URL(string:)` refuses the address. -/
def getTrainTimes (s : HomePage) (poll : Poll) (fetch : Fetch) : HomePage :=
  if F.urlBuilds (arrivalsURL poll.line poll.naptan) then
    { s with requests := s.requests ++ [⟨poll, fetch, false⟩] }
  else s

/-- The callers pass non-`nil` strings, so of the guards only the user's can fail. -/
def updateTubeTimes (s : HomePage) (naptanID line documentID direction : String) : HomePage :=
  match s.currentUser with
  | none => s
  | some uid =>
      let poll : Poll := ⟨⟨uid, documentID⟩, naptanID, line, direction⟩
      let s := s.getTrainTimes F poll .first
      { s with timers := s.timers ++ [poll], timer := some s.timers.length }

/-- The loop over the documents; `false` when a guard left the callback. -/
def savedStopsLoop (s : HomePage) : List QueryDocument → HomePage × Bool
  | [] => (s, true)
  | document :: documents =>
      let s := s.getTimes document.documentID
      match document.decode with
      | none => (s, false)
      | some stop =>
          let s := s.updateTubeTimes F stop.naptan stop.lineLowerCase stop.documentID
            stop.direction
          savedStopsLoop { s with finalTableArray := s.finalTableArray ++ [stop.row] } documents

/-- The listener registered by `getSavedStops`. -/
def savedStopsListener (s : HomePage) (delivery : Delivery (List QueryDocument)) : HomePage :=
  let s := { s with finalTableArray := [], timeArray := [] }
  match delivery with
  | .failed => s
  | .snapshot documents =>
      match s.savedStopsLoop F documents with
      | (s, true) => { s with mainQueue := s.mainQueue ++ [.reloadData] }
      | (s, false) => s

/-- The listener registered by `getTimes`. -/
def timesListener (s : HomePage) (delivery : Delivery DocumentSnapshot) : HomePage :=
  match delivery with
  | .failed => s
  | .snapshot snapshot =>
      { s with mainQueue := s.mainQueue ++
          [.appendTimes snapshot.ref.documentID (readTimes snapshot.data)] }

def runTask (s : HomePage) : Task → HomePage
  | .reloadData => s.reloadData
  | .appendTimes documentName times =>
      reloadData { s with timeArray := s.timeArray ++ [⟨documentName, times⟩] }
  | .reloadAndLayout => s.reloadData

/-- The completion of a request, on the array its callback decoded. -/
def completion (s : HomePage) (request : Request) (times : List TubeTimes) : Option HomePage := do
  let sorted ← F.sortByTime times
  let writes ← request.fetch.pass request.poll.direction sorted
  return { s with store := s.store.setArrivalTimes request.poll.ref writes }

def hiddenContainerViewTapped (s : HomePage) (indexPath : Option Nat) : Option HomePage :=
  match s.currentUser, indexPath with
  | none, _ => some s
  | some _, none => some s
  | some uid, some item =>
      match s.finalTableArray[item]? with
      | none => none
      | some row =>
          match row.documentID with
          | none => some s
          | some docID =>
              let s := { s with
                finalTableArray := s.finalTableArray.eraseIdx item
                store := (s.store.deleteStop ⟨uid, docID⟩).deleteArrivalTimes ⟨uid, docID⟩ }
              -- the batch update makes the view ask the data source again
              let s := s.reloadData
              some { s with mainQueue := s.mainQueue ++ [.reloadAndLayout] }

/-- `array.remove(at: i)`: the removed element and the rest, or the trap. -/
def removeAt {α : Type} (xs : List α) (i : Nat) : Option (α × List α) :=
  xs[i]?.map fun x => (x, xs.eraseIdx i)

theorem removeAt_eq_some {α : Type} {xs rest : List α} {i : Nat} {x : α} :
    removeAt xs i = some (x, rest) ↔ xs[i]? = some x ∧ rest = xs.eraseIdx i := by
  rw [removeAt, Option.map_eq_some_iff]
  constructor
  · rintro ⟨_, found, same⟩
    cases same
    exact ⟨found, rfl⟩
  · rintro ⟨found, rfl⟩
    exact ⟨x, found, rfl⟩

/-- `array.insert(x, at: i)`. -/
def insertAt {α : Type} (xs : List α) (x : α) (i : Nat) : Option (List α) :=
  if i ≤ xs.length then some (xs.insertIdx i x) else none

def moveItemAt (s : HomePage) (sourceIndexPath destinationIndexPath : Nat) : Option HomePage := do
  let (temp, finalTableArray) ← removeAt s.finalTableArray sourceIndexPath
  let (temp1, timeArray) ← removeAt s.timeArray sourceIndexPath
  let finalTableArray ← insertAt finalTableArray temp destinationIndexPath
  let timeArray ← insertAt timeArray temp1 destinationIndexPath
  return reloadData { s with finalTableArray, timeArray }

end HomePage

/-! ## The machine -/

/-- One task of the main thread. -/
inductive Event where
  | getSavedStops
  | refreshData
  | stopsSnapshot (listener : Nat) (delivery : Delivery (List QueryDocument))
  | timesSnapshot (listener : Nat) (delivery : Delivery DocumentSnapshot)
  | mainQueue
  | timerFired (timer : Nat)
  | response (request : Nat) (response : Response TubeTimes)
  | hiddenContainerViewTapped (indexPath : Option Nat)
  | moveItemAt (sourceIndexPath destinationIndexPath : Nat)
  | authChanged (uid : Option String)

namespace HomePage

/-- Callbacks come from what was registered or issued; a collection snapshot lists
each document once, a times snapshot is of the document listened to, a request is
answered once, and UIKit reports index paths within the last reported item count. -/
def Enabled (s : HomePage) : Event → Prop
  | .stopsSnapshot listener .failed => listener < s.stopsListeners.length
  | .stopsSnapshot listener (.snapshot documents) =>
      listener < s.stopsListeners.length ∧ (documents.map QueryDocument.documentID).Nodup
  | .timesSnapshot listener .failed => listener < s.timesListeners.length
  | .timesSnapshot listener (.snapshot contents) =>
      (s.timesListeners[listener]?.map TimesListener.ref) = some contents.ref
  | .mainQueue => s.mainQueue ≠ []
  | .timerFired timer => timer < s.timers.length
  | .response request _ => (s.requests[request]?.map Request.answered) = some false
  | .hiddenContainerViewTapped (some item) => item < s.shown.length
  | .moveItemAt source destination => source < s.shown.length ∧ destination < s.shown.length
  | _ => True

instance (s : HomePage) (e : Event) : Decidable (s.Enabled e) :=
  match e with
  | .stopsSnapshot _ .failed => inferInstanceAs (Decidable (_ < _))
  | .stopsSnapshot _ (.snapshot _) => inferInstanceAs (Decidable (_ ∧ _))
  | .timesSnapshot _ .failed => inferInstanceAs (Decidable (_ < _))
  | .timesSnapshot _ (.snapshot _) => inferInstanceAs (Decidable (_ = _))
  | .mainQueue => inferInstanceAs (Decidable (_ ≠ _))
  | .timerFired _ => inferInstanceAs (Decidable (_ < _))
  | .response _ _ => inferInstanceAs (Decidable (_ = _))
  | .hiddenContainerViewTapped (some _) => inferInstanceAs (Decidable (_ < _))
  | .hiddenContainerViewTapped none => .isTrue trivial
  | .moveItemAt _ _ => inferInstanceAs (Decidable (_ ∧ _))
  | .getSavedStops => .isTrue trivial
  | .refreshData => .isTrue trivial
  | .authChanged _ => .isTrue trivial

/-- A response is handed to the completion of its request; without data nothing is. -/
def answer (F : Frameworks) (s : HomePage) (k : Nat) (response : Response TubeTimes) :
    Option HomePage :=
  match s.requests[k]? with
  | none => some s
  | some request =>
      let s := { s with requests := s.requests.set k { request with answered := true } }
      match response.records with
      | none => some s
      | some times => s.completion F request times

/-- The main thread takes its oldest queued closure. -/
def runMainQueue (s : HomePage) : HomePage :=
  match s.mainQueue with
  | [] => s
  | task :: tasks => runTask { s with mainQueue := tasks } task

/-- A repeating timer requests the arrivals of its poll again. -/
def timerFired (F : Frameworks) (s : HomePage) (timer : Nat) : HomePage :=
  match s.timers[timer]? with
  | none => s
  | some poll => s.getTrainTimes F poll .timer

def step (F : Frameworks) (s : HomePage) : Event → Option HomePage
  | .getSavedStops => some s.getSavedStops
  | .refreshData => some s.refreshData
  | .stopsSnapshot listener delivery =>
      some (savedStopsListener F
        { s with stopsListeners :=
            s.stopsListeners.modify listener fun l => { l with fired := true } } delivery)
  | .timesSnapshot listener delivery =>
      some (timesListener
        { s with timesListeners :=
            s.timesListeners.modify listener fun l => { l with fired := true } } delivery)
  | .mainQueue => some s.runMainQueue
  | .timerFired timer => some (s.timerFired F timer)
  | .response request response => s.answer F request response
  | .hiddenContainerViewTapped indexPath => s.hiddenContainerViewTapped indexPath
  | .moveItemAt source destination => s.moveItemAt source destination
  | .authChanged uid => some { s with currentUser := uid }

/-- `viewDidLoad`, for the listeners: the page subscribes to the saved stops. -/
def viewDidLoad (currentUser : Option String) (store : Firestore) : HomePage :=
  getSavedStops { currentUser, store }

end HomePage

/-- The home page, from `viewDidLoad` on. -/
def homePage (F : Frameworks) : Machine HomePage Event where
  Start s := ∃ currentUser store, s = HomePage.viewDidLoad currentUser store
  Enabled := HomePage.Enabled
  step := HomePage.step F

instance (F : Frameworks) (s : HomePage) (e : Event) : Decidable ((homePage F).Enabled s e) :=
  inferInstanceAs (Decidable (s.Enabled e))

end MindTheGap
