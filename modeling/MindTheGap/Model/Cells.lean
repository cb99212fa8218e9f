/-
# Model.Cells -- the cells of the two collections, and what they are set to

A cell is what its labels, its image and its colours show.  `cellForItemAt` is handed a
cell that is new or was used before, and changes parts of it; it is modelled on one cell
and the data for it, with the closures of `UIView.transition` run.

How a number of seconds is spelled in minutes, and where a text may be divided by
`range(of:)`, is the library's (`Foundation`).
-/
import MindTheGap.Theory.FirstOccurrence
import MindTheGap.Model.HomePage

namespace MindTheGap

open MindTheGap.Theory

set_option autoImplicit false

/-- What the library decides about texts: `DateComponentsFormatter.string(from:)` with
minutes only, which shows some time as something, and where a text may be divided. -/
structure Foundation where
  string : Int → Option String
  divides : List Char → List Char → Bool
  visible : ∃ seconds, string seconds ≠ some ""

namespace Foundation

/-- Whole minutes, and divisions everywhere but before a combining diacritical mark. -/
def reference : Foundation where
  string seconds := some (toString (seconds / 60) ++ " min")
  divides _ after := after.head?.all fun c => decide (c.toNat < 0x300 ∨ 0x36F < c.toNat)
  visible := ⟨0, by decide⟩

variable (W : Foundation)

/-- `if let range = text.range(of: word) { text.removeSubrange(range) }`, `none` when
there is no such range. -/
def removingRange (word text : String) : Option String :=
  (removeFirst W.divides word.toList [] text.toList).map String.ofList

/-- The word occurs in the text. -/
def Occurs (word text : String) : Prop :=
  OccursAfter W.divides word.toList [] text.toList

theorem removingRange_isSome_iff {word text : String} :
    (W.removingRange word text).isSome ↔ W.Occurs word text := by
  rw [removingRange, Option.isSome_map]
  exact removeFirst_isSome_iff

end Foundation

/-- A colour, in hundredths; the alpha is one throughout. -/
structure UIColor where
  redPart : Nat
  greenPart : Nat
  bluePart : Nat
deriving DecidableEq, Repr

namespace UIColor

def black : UIColor := ⟨0, 0, 0⟩
def red : UIColor := ⟨100, 0, 0⟩
def blue : UIColor := ⟨0, 0, 100⟩
def orange : UIColor := ⟨100, 50, 0⟩

end UIColor

inductive TubeLineColours where
  | bakerloo | central | hammersmithCity | circle | district | jubilee
  | metropolitan | northern | overground | picadilly | victoria | waterlooCity
deriving DecidableEq, Repr

def TubeLineColours.lineColour : TubeLineColours → UIColor
  | .bakerloo => ⟨70, 39, 0⟩
  | .central => ⟨86, 14, 12⟩
  | .hammersmithCity => ⟨96, 66, 75⟩
  | .circle => ⟨100, 83, 16⟩
  | .district => ⟨0, 49, 20⟩
  | .jubilee => ⟨63, 65, 65⟩
  | .metropolitan => ⟨61, 0, 35⟩
  | .northern => .black
  | .overground => ⟨94, 48, 6⟩
  | .picadilly => ⟨0, 10, 66⟩
  | .victoria => ⟨0, 60, 85⟩
  | .waterlooCity => ⟨58, 81, 73⟩

/-! ## The row of a saved stop -/

/-- What a `StopCell` shows; it is made with these. -/
structure StopCell where
  colourLine : UIColor := .blue
  lineText : Option String := some "Jubilee Line"
  stationDirectionText : Option String := some "Southwark Westbound"
  timeText1 : Option String := some ""
  timeText2 : Option String := some ""
  timeText3 : Option String := some ""
deriving DecidableEq, Repr

namespace HomePage

/-- The case labels are the source's, spelling included. -/
def returnColorValue (lineName : String) : UIColor :=
  match lineName with
  | "Jubilee" => TubeLineColours.jubilee.lineColour
  | "Central" => TubeLineColours.central.lineColour
  | "Circle" => TubeLineColours.circle.lineColour
  | "District" => TubeLineColours.district.lineColour
  | "Metropolitan" => TubeLineColours.metropolitan.lineColour
  | "Piccadilly" => TubeLineColours.picadilly.lineColour
  | "Victoria" => TubeLineColours.victoria.lineColour
  | "Hammmersmith & City" => TubeLineColours.hammersmithCity.lineColour
  | "Waterloo & City" => TubeLineColours.waterlooCity.lineColour
  | "Northern" => TubeLineColours.northern.lineColour
  | "Bakerloo" => TubeLineColours.bakerloo.lineColour
  | "London Overground" => TubeLineColours.overground.lineColour
  | _ => .red

variable (W : Foundation)

def changeTime (time : Int) : Option String :=
  W.string time

def wordsToRemove : List String :=
  ["Rail Station", "Underground Station"]

/-- The loop over `wordsToRemove`.  The label is set where a range was found, and there
the caption is unwrapped. -/
def labelLoop (caption : Option (String → String)) :
    List String → String → Option String → Option (Option String)
  | [], _, text => some text
  | word :: words, name, text =>
      match W.removingRange word name with
      | none => labelLoop caption words name text
      | some name =>
          match caption with
          | none => none
          | some write => labelLoop caption words name (some (write name))

/-- What `TimeText1` is set to. -/
def firstTime (time1 : Int) : Option String :=
  if changeTime W time1 = some "0 min" then some "Now" else changeTime W time1

end HomePage

namespace StopCell

/-- The cells come from `SwipeableCollectionViewCell`, which shows none of this. -/
def prepareForReuse (cell : StopCell) : StopCell :=
  { cell with lineText := some "", stationDirectionText := some "" }

variable (W : Foundation)

/-- The labels of the name and of the destination, each by its loop. -/
def setLineText (cell : StopCell) (stationName : Option String) : Option StopCell :=
  match stationName with
  | none => some cell
  | some name =>
      (HomePage.labelLoop W (some id) HomePage.wordsToRemove name cell.lineText).map fun text =>
        { cell with lineText := text }

def setDirection (cell : StopCell) (destination1 directionName : Option String) :
    Option StopCell :=
  match destination1 with
  | none => some cell
  | some destination =>
      let caption := directionName.map fun direction destination =>
        s!"{destination} | {direction}"
      (HomePage.labelLoop W caption HomePage.wordsToRemove destination
        cell.stationDirectionText).map fun text => { cell with stationDirectionText := text }

def setTimes (cell : StopCell) (times : Option TimeDestination) : StopCell :=
  { cell with
    timeText1 :=
      ((times.bind TimeDestination.time1).map (HomePage.firstTime W)).getD cell.timeText1
    timeText2 :=
      ((times.bind TimeDestination.time2).map (HomePage.changeTime W)).getD cell.timeText2
    timeText3 :=
      ((times.bind TimeDestination.time3).map (HomePage.changeTime W)).getD cell.timeText3 }

def setColour (cell : StopCell) (lineName : Option String) : StopCell :=
  match lineName with
  | none => cell
  | some line => { cell with colourLine := HomePage.returnColorValue line }

/-- `cellForItemAt` for the stops, on the dequeued cell and the row. -/
def cellForItemAt (cell : StopCell) (data : TableArray) (times : Option TimeDestination) :
    Option StopCell := do
  let cell ← cell.setLineText W data.stationName
  let cell := cell.setTimes W times
  let cell ← cell.setDirection W (times.bind TimeDestination.destination1) data.directionName
  return cell.setColour data.lineName

end StopCell

/-- The row and the times `cellForItemAt` takes; an index beyond the rows traps. -/
def HomePage.stopCell (W : Foundation) (s : HomePage) (cell : StopCell) (row : Nat) :
    Option StopCell := do
  let data ← s.finalTableArray[row]?
  cell.cellForItemAt W data ((subscriptOptional s.timeArray row).map TimesEntry.times)

/-! ## The tile of a disruption -/

/-- `struct status: Decodable`, as far as it is shown. -/
structure Status where
  statusSeverityDescription : String
deriving DecidableEq, Repr

/-- `struct TubeStatus: Decodable`. -/
structure TubeStatus where
  name : Option String
  lineStatuses : List Status
deriving DecidableEq, Repr

/-- An image of the asset catalogue. -/
structure UIImage where
  asset : String
deriving DecidableEq, Repr

/-- The image sets of `Assets.xcassets`. -/
def UIImage.assets : List String :=
  ["BAK", "CEN", "CIR", "DIS", "HMC", "JUB", "MET", "NOR", "OVR", "PIC", "VIC", "WAT", "delete",
    "underground"]

/-- `UIImage(named:)`. -/
def UIImage.named (name : String) : Option UIImage :=
  if name ∈ assets then some ⟨name⟩ else none

/-- What a `DisruptionsCell` shows; it is made with these.  It has no reset of its own. -/
structure DisruptionsCell where
  tubeLogoImage : Option UIImage := UIImage.named "underground"
  lineName : Option String := some "Unavailable"
  lineStatus : Option String := some "Unavailable"
  lineStatusColour : UIColor := .black
deriving DecidableEq, Repr

/-- The images are unwrapped, the default one first. -/
def HomePage.returnImageForLine (line : String) : Option UIImage := do
  let defaultImage ← UIImage.named "underground"
  match line with
  | "Bakerloo" => UIImage.named "BAK"
  | "Circle" => UIImage.named "CIR"
  | "District" => UIImage.named "DIS"
  | "Jubilee" => UIImage.named "JUB"
  | "Overground" => UIImage.named "OVR"
  | "Central" => UIImage.named "CEN"
  | "Hammersmith & City" => UIImage.named "HMC"
  | "Northern" => UIImage.named "NOR"
  | "Piccadilly" => UIImage.named "PIC"
  | "Victoria" => UIImage.named "VIC"
  | "Waterloo & City" => UIImage.named "WAT"
  | "Metropolitan" => UIImage.named "MET"
  | _ => some defaultImage

namespace DisruptionsCell

def setLogo (cell : DisruptionsCell) (name : Option String) : Option DisruptionsCell :=
  match name with
  | none => some cell
  | some line => do
      let image ← HomePage.returnImageForLine line
      return { cell with tubeLogoImage := some image }

def setStatusColour (cell : DisruptionsCell) (statusSeverityDescription : String) :
    DisruptionsCell :=
  if statusSeverityDescription = "Good Service" then
    { cell with lineStatusColour := ⟨19, 72, 24⟩ }
  else if statusSeverityDescription = "Severe Delays" then
    { cell with lineStatusColour := .orange }
  else if statusSeverityDescription = "Minor Delays" then
    { cell with lineStatusColour := .orange }
  else if statusSeverityDescription = "Planned Closure" then
    { cell with lineStatusColour := .red }
  else cell

/-- `cellForItemAt` for the disruptions, on the dequeued cell and the row. -/
def cellForItemAt (cell : DisruptionsCell) (data : TubeStatus) : Option DisruptionsCell := do
  let cell ← { cell with lineName := data.name }.setLogo data.name
  let first ← data.lineStatuses[0]?
  let cell := { cell with lineStatus := some first.statusSeverityDescription }
  return cell.setStatusColour first.statusSeverityDescription

end DisruptionsCell

/-- The row `cellForItemAt` takes; an index beyond the rows traps. -/
def HomePage.disruptionsCell (tubeStatus : List TubeStatus) (cell : DisruptionsCell) (row : Nat) :
    Option DisruptionsCell := do
  let data ← tubeStatus[row]?
  cell.cellForItemAt data

end MindTheGap
