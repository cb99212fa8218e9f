/-
# HomePage.DisruptionTile -- what the tile of a line's status shows

A tile is used for one line after another and never reset.  Its name and its status are
set for every line; its logo only where there is a name, its colour only for four known
statuses, and a line without a status traps (`cellForItemAt_first`, `cellForItemAt_empty`).

So a tile shows its own line, whatever it was used for before, precisely when the line has
a name and its first status is one of the four: `tileShowsOwn_iff`.  The logo itself never
traps, every image it asks for being in the catalogue (`returnImageForLine_isSome`).
-/
import MindTheGap.Theory.Recycled
import MindTheGap.Model.Cells

namespace MindTheGap

open MindTheGap.Theory

set_option autoImplicit false

namespace DisruptionsCell

theorem returnImageForLine_isSome (line : String) : (HomePage.returnImageForLine line).isSome := by
  have underground : UIImage.named "underground" = some ⟨"underground"⟩ := by decide
  rw [HomePage.returnImageForLine, underground, Option.bind_eq_bind, Option.bind_some]
  split <;> rfl

/-- The statuses that have a colour. -/
def Known (statusSeverityDescription : String) : Prop :=
  statusSeverityDescription ∈ ["Good Service", "Severe Delays", "Minor Delays", "Planned Closure"]

/-- The colour of a status, where it has one. -/
def statusColour (statusSeverityDescription : String) : Option UIColor :=
  if statusSeverityDescription = "Good Service" then some ⟨19, 72, 24⟩
  else if statusSeverityDescription = "Severe Delays" then some .orange
  else if statusSeverityDescription = "Minor Delays" then some .orange
  else if statusSeverityDescription = "Planned Closure" then some .red
  else none

theorem statusColour_isSome_iff {text : String} : (statusColour text).isSome ↔ Known text := by
  unfold statusColour Known
  split_ifs <;> simp_all

theorem setStatusColour_eq (cell : DisruptionsCell) (text : String) :
    cell.setStatusColour text =
      { cell with lineStatusColour := (statusColour text).getD cell.lineStatusColour } := by
  unfold setStatusColour statusColour
  split_ifs <;> rfl

/-- What a tile set to a line with a first status comes to, part by part. -/
def setTo (data : TubeStatus) (first : Status) (cell : DisruptionsCell) : DisruptionsCell where
  tubeLogoImage := ((data.name.bind HomePage.returnImageForLine).map some).getD cell.tubeLogoImage
  lineName := data.name
  lineStatus := some first.statusSeverityDescription
  lineStatusColour := (statusColour first.statusSeverityDescription).getD cell.lineStatusColour

theorem setLogo_eq (cell : DisruptionsCell) (name : Option String) :
    cell.setLogo name = some { cell with
      tubeLogoImage := ((name.bind HomePage.returnImageForLine).map some).getD
        cell.tubeLogoImage } := by
  cases name with
  | none => rfl
  | some line =>
      obtain ⟨image, found⟩ := Option.isSome_iff_exists.1 (returnImageForLine_isSome line)
      rw [setLogo, Option.bind_some, found]
      rfl

theorem cellForItemAt_first (cell : DisruptionsCell) {data : TubeStatus} {first : Status}
    (isFirst : data.lineStatuses[0]? = some first) :
    cell.cellForItemAt data = some (setTo data first cell) := by
  rw [cellForItemAt, setLogo_eq, isFirst]
  simp only [Option.bind_eq_bind, Option.bind_some, setStatusColour_eq]
  rfl

/-- `lineStatuses[0]` of an empty list. -/
theorem cellForItemAt_empty (cell : DisruptionsCell) {data : TubeStatus}
    (none_first : data.lineStatuses[0]? = none) : cell.cellForItemAt data = none := by
  rw [cellForItemAt, setLogo_eq, none_first]
  rfl

/-! ## Whose line a tile shows -/

/-- The tiles, with the decoded lines and the row they are set to. -/
def tiles : Display DisruptionsCell (List TubeStatus × Nat) where
  fresh := {}
  Valid input := input.2 < input.1.length
  configure cell input := HomePage.disruptionsCell input.1 cell input.2
  prepareForReuse cell := cell

/-- The line has a name, and its first status a colour. -/
structure Complete (data : TubeStatus) : Prop where
  name : data.name.isSome
  status : ∃ first, data.lineStatuses[0]? = some first ∧ Known first.statusSeverityDescription

/-- A line with its logo and its colour. -/
def goodService : TubeStatus := ⟨some "Victoria", [⟨"Good Service"⟩]⟩

/-- A tile that showed it. -/
def usedTile : DisruptionsCell := setTo goodService ⟨"Good Service"⟩ {}

theorem usedTile_atHand : tiles.AtHand usedTile := by
  have inside : tiles.Valid ([goodService], 0) := Nat.lt_succ_self 0
  have configured : tiles.configure tiles.fresh ([goodService], 0) = some usedTile := by
    decide
  exact .reused .fresh inside configured

/-- **A tile is total and shows only its own line precisely when the line is complete.** -/
theorem tileShowsOwn_iff {tubeStatus : List TubeStatus} {row : Nat}
    (inside : row < tubeStatus.length) :
    tiles.ShowsOwn (tubeStatus, row) ↔ Complete tubeStatus[row] := by
  have configured : ∀ cell, tiles.configure cell (tubeStatus, row) =
      cell.cellForItemAt tubeStatus[row] := by
    intro cell
    show HomePage.disruptionsCell tubeStatus cell row = _
    rw [HomePage.disruptionsCell, List.getElem?_eq_getElem inside]
    rfl
  constructor
  · intro own
    cases isFirst : tubeStatus[row].lineStatuses[0]? with
    | none =>
        -- `lineStatuses[0]` traps on every tile
        obtain ⟨shown, succeeds⟩ := own.succeeds
        rw [configured, cellForItemAt_empty _ isFirst] at succeeds
        cases succeeds
    | some first =>
        have comesTo : ∀ cell, tiles.configure cell (tubeStatus, row) =
            some (setTo tubeStatus[row] first cell) :=
          fun cell => (configured cell).trans (cellForItemAt_first cell isFirst)
        have logo := own.given_isSome comesTo tubeLogoImage (fun _ => rfl) usedTile_atHand .fresh
          (by decide)
        have colour := own.given_isSome comesTo lineStatusColour (fun _ => rfl) usedTile_atHand
          .fresh (by decide)
        rw [Option.isSome_map] at logo
        obtain ⟨image, found⟩ := Option.isSome_iff_exists.1 logo
        obtain ⟨name, named, -⟩ := Option.bind_eq_some_iff.1 found
        refine ⟨?_, first, isFirst, statusColour_isSome_iff.1 colour⟩
        rw [named]
        rfl
  · rintro ⟨hasName, first, isFirst, known⟩
    obtain ⟨name, named⟩ := Option.isSome_iff_exists.1 hasName
    obtain ⟨image, found⟩ := Option.isSome_iff_exists.1 (returnImageForLine_isSome name)
    obtain ⟨colour, coloured⟩ := Option.isSome_iff_exists.1 (statusColour_isSome_iff.2 known)
    refine Display.showsOwn_of_constant
      ⟨some image, some name, some first.statusSeverityDescription, colour⟩ fun cell => ?_
    rw [configured, cellForItemAt_first cell isFirst]
    simp [setTo, named, found, coloured]

theorem tileShowsOwn_iff_goodService :
    tiles.ShowsOwn ([goodService], 0) ↔ Complete goodService := by
  have inside : 0 < [goodService].length := Nat.lt_succ_self 0
  exact tileShowsOwn_iff inside

/-- The refuting pole: a status without a colour is shown in that of the line before, and
a line without statuses traps. -/
theorem status_in_an_earlier_colour :
    (tiles.configure {} ([⟨some "Central", [⟨"Part Suspended"⟩]⟩], 0)).map lineStatusColour =
        some .black ∧
      (tiles.configure usedTile ([⟨some "Central", [⟨"Part Suspended"⟩]⟩], 0)).map
        lineStatusColour = some ⟨19, 72, 24⟩ ∧
      ¬ tiles.ShowsOwn ([⟨some "Central", [⟨"Part Suspended"⟩]⟩], 0) ∧
      tiles.configure {} ([⟨some "Central", []⟩], 0) = none := by
  refine ⟨by decide, by decide, fun own => ?_, by decide⟩
  obtain ⟨shown, fromNew, fromUsed⟩ := own {} usedTile .fresh usedTile_atHand
  exact absurd (fromNew.trans fromUsed.symm) (by decide)

end DisruptionsCell

end MindTheGap
