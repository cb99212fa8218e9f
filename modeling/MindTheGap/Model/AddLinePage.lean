/-
# Model.AddLinePage -- the form that adds a stop, as an event machine

A tap on a line sets the line and the stations of the picker at once.  A picked row
starts a lookup of the station's naptan id; its answer sets the id and requests the
arrivals there, whose platforms become the titles of the two direction buttons.  "Add"
reads the four of them and requests the arrivals once more, and the completion of that
request saves the stop.

Lookups and requests are never cancelled and are answered in any order, each once.  An
index into `lookups`, `directionRequests` or `stopRequests` names one of them for good.
`effects` is what the page asked of the rest of the app, in order; the spinner and the
one alert that go through the main queue are listed when they are asked for.

`titleLabel!.text!` is the title last set for the normal state, and traps on `nil`.  The
look of the buttons is left out.
-/
import MindTheGap.Theory.Machine
import MindTheGap.Model.Arrivals
import MindTheGap.Model.Stations

namespace MindTheGap

open MindTheGap.Theory

set_option autoImplicit false

/-- What a page asks of UIKit and of its delegate. -/
inductive Effect where
  | showSpinner
  | removeSpinner
  | AlertofError (error message : String)
  | vibrate
  | refreshData
  | popViewController
deriving DecidableEq, Repr

/-- A call of `getNaptanIDFromName`. -/
structure Lookup where
  name : String
  answered : Bool
deriving DecidableEq, Repr

/-- The document `naptanID/{name}` as a lookup finds it; its field is `nil` when it is
absent or no string. -/
inductive NaptanDocument where
  | missing
  | found (naptanID : Option String)
deriving DecidableEq, Repr

/-- The id a lookup completes with; `none` is the trap of `as! String`. -/
def NaptanDocument.id : NaptanDocument → Option String
  | .missing => some "unavailable"
  | .found naptanID => naptanID

/-- A request of `getDirections`. -/
structure DirectionRequest where
  naptan : String
  line : String
  answered : Bool
deriving DecidableEq, Repr

/-- A request of `getLineData`, with what the completion of `addStop` captures. -/
structure StopRequest where
  uid : String
  line : String
  naptan : String
  direction : String
  documentID : String
  answered : Bool
deriving DecidableEq, Repr

/-- The document the completion writes. -/
def StopRequest.ref (request : StopRequest) : DocRef := ⟨request.uid, request.documentID⟩

structure AddLinePage where
  currentUser : Option String
  stations : List String := ["Pick a Line"]
  line : Option String := none
  naptan : Option String := none
  direction : Option String := none
  is1Selected : Bool := false
  is2Selected : Bool := false
  direction1Title : Option String := some "Choose a Direction"
  direction2Title : Option String := some "Choose a Direction"
  lookups : List Lookup := []
  directionRequests : List DirectionRequest := []
  stopRequests : List StopRequest := []
  effects : List Effect := []
  store : Firestore

namespace AddLinePage

variable (F : Frameworks)

/-- The page asks for some effects. -/
def ask (s : AddLinePage) (effects : List Effect) : AddLinePage :=
  { s with effects := s.effects ++ effects }

/-! ## The functions of `AddLinePage.swift` -/

def didSelectItemAt (s : AddLinePage) (item : Nat) : Option AddLinePage :=
  lines[item]?.map fun name =>
    { s with stations := returnArray name, line := some (returnlineName name) }

def getNaptanIDFromName (s : AddLinePage) (name : String) : AddLinePage :=
  { s with lookups := s.lookups ++ [⟨name, false⟩] }

def didSelectRow (s : AddLinePage) (row : Nat) : Option AddLinePage :=
  s.stations[row]?.map s.getNaptanIDFromName

def getDirections (s : AddLinePage) (naptan line : String) : AddLinePage :=
  if F.urlBuilds (arrivalsURL line naptan) then
    { s with directionRequests := s.directionRequests ++ [⟨naptan, line, false⟩] }
  else s

/-- The completion of a lookup.  The arrivals are requested for whatever id came. -/
def naptanCompletion (s : AddLinePage) (id : String) : AddLinePage :=
  match s.line with
  | none => s
  | some line =>
      let s := s.getDirections F id line
      if id = "unavailable" then s.ask [.AlertofError "Sorry" "This station isn't supported yet"]
      else { s with naptan := some id }

/-- The title of a direction button after the platforms came. -/
def platformTitle (platforms : List TubeDirection) (place : Nat) : Option String :=
  (subscriptOptional (removeDuplicates platforms) place).bind TubeDirection.platformName

/-- The completion of `getDirections`. -/
def directionsCompletion (s : AddLinePage) (platforms : List TubeDirection) : AddLinePage :=
  { s with
    direction1Title := platformTitle platforms 0
    direction2Title := platformTitle platforms 1 }

def direction1 (s : AddLinePage) : AddLinePage :=
  if s.is1Selected = false then { s with is1Selected := true, is2Selected := false }
  else { s with is1Selected := false }

def direction2 (s : AddLinePage) : AddLinePage :=
  if s.is2Selected = false then { s with is2Selected := true, is1Selected := false }
  else { s with is2Selected := false }

def getLineData (s : AddLinePage) (request : StopRequest) : AddLinePage :=
  if F.urlBuilds (arrivalsURL request.line request.naptan) then
    { s with stopRequests := s.stopRequests ++ [request] }
  else s

/-- `addStop`; `documentID` is the id Firestore gives the new document. -/
def addStop (s : AddLinePage) (documentID : String) : Option AddLinePage :=
  let s := s.ask [.showSpinner]
  match s.line, s.naptan with
  | none, _ => some (s.ask [.AlertofError "Error" "A line is needed", .removeSpinner])
  | some _, none => some (s.ask [.AlertofError "Error" "A station is needed", .removeSpinner])
  | some line, some naptan =>
      if s.is1Selected = false ∧ s.is2Selected = false then
        some (s.ask [.AlertofError "Error" "Pick a direction", .removeSpinner])
      else
        match if s.is1Selected then s.direction1Title else s.direction2Title with
        | none => none
        | some title =>
            let s := { s with direction := some title }
            match s.currentUser with
            | none => some s
            | some uid =>
                let s := s.ask [.vibrate]
                some (s.getLineData F ⟨uid, line, naptan, title, documentID, false⟩)

/-- The dictionary of the completion of `addStop`. -/
def stopData (request : StopRequest) (first : Option TubeTimes) : Data :=
  [("line", .ofOptional (first.bind TubeTimes.lineName)),
    ("lowercaseline", .ofOptional (first.bind TubeTimes.lineId)),
    ("naptanID", .ofOptional (first.bind TubeTimes.naptanId)),
    ("direction", .string request.direction),
    ("documentID", .string request.documentID),
    ("stationName", .ofOptional (first.bind TubeTimes.stationName))]

/-- The completion of `addStop`, on the sorted array. -/
def stopCompletion (s : AddLinePage) (request : StopRequest) (data : List TubeTimes) :
    AddLinePage :=
  ask { s with store := s.store.setStop request.ref (stopData request data.head?) }
    [.refreshData, .removeSpinner, .popViewController]

/-! ## The machine -/

/-- One task of the main thread. -/
inductive Event where
  | didSelectItemAt (item : Nat)
  | didSelectRow (row : Nat)
  | naptanDocument (lookup : Nat) (document : NaptanDocument)
  | directions (request : Nat) (response : Response TubeDirection)
  | direction1
  | direction2
  | addStop (documentID : String)
  | lineData (request : Nat) (response : Response TubeTimes)
  | authChanged (uid : Option String)
deriving DecidableEq, Repr

/-- The grid and the picker report places they show, an answer is to something asked and
not answered, and Firestore gives a new document an id of its own. -/
def Enabled (s : AddLinePage) : Event → Prop
  | .didSelectItemAt item => item < lines.length
  | .didSelectRow row => row < s.stations.length
  | .naptanDocument lookup _ => (s.lookups[lookup]?.map Lookup.answered) = some false
  | .directions request _ =>
      (s.directionRequests[request]?.map DirectionRequest.answered) = some false
  | .addStop documentID =>
      (∀ uid ∈ s.currentUser, (s.store.savedStops ⟨uid, documentID⟩).isNone = true) ∧
        ∀ request ∈ s.stopRequests, request.documentID ≠ documentID
  | .lineData request _ => (s.stopRequests[request]?.map StopRequest.answered) = some false
  | _ => True

instance (s : AddLinePage) (e : Event) : Decidable (s.Enabled e) :=
  match e with
  | .didSelectItemAt _ => inferInstanceAs (Decidable (_ < _))
  | .didSelectRow _ => inferInstanceAs (Decidable (_ < _))
  | .naptanDocument _ _ => inferInstanceAs (Decidable (_ = _))
  | .directions _ _ => inferInstanceAs (Decidable (_ = _))
  | .direction1 => .isTrue trivial
  | .direction2 => .isTrue trivial
  | .addStop _ => inferInstanceAs (Decidable (_ ∧ _))
  | .lineData _ _ => inferInstanceAs (Decidable (_ = _))
  | .authChanged _ => .isTrue trivial

def answerLookup (s : AddLinePage) (k : Nat) (document : NaptanDocument) : Option AddLinePage :=
  document.id.map fun id =>
    naptanCompletion F
      { s with lookups := s.lookups.modify k fun lookup => { lookup with answered := true } } id

def answerDirections (s : AddLinePage) (k : Nat) (response : Response TubeDirection) :
    AddLinePage :=
  let s := { s with directionRequests :=
    s.directionRequests.modify k fun request => { request with answered := true } }
  match response.records with
  | none => s
  | some platforms => s.directionsCompletion platforms

def answerLineData (s : AddLinePage) (k : Nat) (response : Response TubeTimes) :
    Option AddLinePage :=
  match s.stopRequests[k]? with
  | none => some s
  | some request =>
      let s := { s with stopRequests := s.stopRequests.set k { request with answered := true } }
      match response.records with
      | none => some s
      | some times => (F.sortByTime times).map fun data => s.stopCompletion request data

def step (s : AddLinePage) : Event → Option AddLinePage
  | .didSelectItemAt item => s.didSelectItemAt item
  | .didSelectRow row => s.didSelectRow row
  | .naptanDocument lookup document => s.answerLookup F lookup document
  | .directions request response => some (s.answerDirections request response)
  | .direction1 => some s.direction1
  | .direction2 => some s.direction2
  | .addStop documentID => s.addStop F documentID
  | .lineData request response => s.answerLineData F request response
  | .authChanged uid => some { s with currentUser := uid }

end AddLinePage

/-- The add page, from its presentation on. -/
def addLinePage (F : Frameworks) : Machine AddLinePage AddLinePage.Event where
  Start s := ∃ currentUser store, s = { currentUser, store }
  Enabled := AddLinePage.Enabled
  step := AddLinePage.step F

instance (F : Frameworks) (s : AddLinePage) (e : AddLinePage.Event) :
    Decidable ((addLinePage F).Enabled s e) :=
  inferInstanceAs (Decidable (s.Enabled e))

end MindTheGap
