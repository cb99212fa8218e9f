/-
# HomePage.StopRow -- what the row of a saved stop shows

A stop cell is used for one row after another.  Of what it shows, each part is set under a
condition of its own: a time when there is one, a label when one of the `wordsToRemove`
occurs in its text, the colour when there is a line (`cellForItemAt_row`).  Of what may be
left as it was, `prepareForReuse` resets the two labels, and to something a new cell does
not have.

So a row shows its own data whatever the cell was used for before precisely when every
part is set: `rowShowsOwn_iff`.
-/
import MindTheGap.Theory.Recycled
import MindTheGap.Model.Cells
import MindTheGap.HomePage.Effects

namespace MindTheGap

open MindTheGap.Theory

set_option autoImplicit false

namespace HomePage

variable {W : Foundation}

/-! ## The loop over the words -/

/-- The text without the words, `none` when none of them is found. -/
def strip (W : Foundation) : List String → String → Option String
  | [], _ => none
  | word :: words, text =>
      match W.removingRange word text with
      | none => strip W words text
      | some rest => some ((strip W words rest).getD rest)

/-- **The label loop.**  It sets the label if one of the words is found. -/
theorem labelLoop_eq (caption : Option (String → String)) (words : List String)
    (name : String) (text : Option String) :
    labelLoop W caption words name text =
      match strip W words name with
      | none => some text
      | some stripped => caption.map fun write => some (write stripped) := by
  induction words generalizing name text with
  | nil => rfl
  | cons word words ih =>
      rw [labelLoop, strip]
      cases W.removingRange word name with
      | none => exact ih name text
      | some rest =>
          cases caption with
          | none => rfl
          | some write =>
              show labelLoop W (some write) words rest (some (write rest)) =
                some (some (write ((strip W words rest).getD rest)))
              rw [ih]
              cases strip W words rest <;> rfl

theorem strip_isSome_iff {words : List String} {text : String} :
    (strip W words text).isSome ↔ ∃ word ∈ words, W.Occurs word text := by
  induction words with
  | nil => simp [strip]
  | cons word words ih =>
      rw [strip, List.exists_mem_cons_iff, ← W.removingRange_isSome_iff]
      cases W.removingRange word text with
      | none => simpa using ih
      | some rest => simp

/-! ## The cell of a row -/

/-- What a cell set to the row of a stop comes to, part by part. -/
def setTo (W : Foundation) (stop : SavedStop) (times : Option TimeDestination)
    (cell : StopCell) : StopCell where
  colourLine := returnColorValue stop.line
  lineText := ((strip W wordsToRemove stop.stationName).map some).getD cell.lineText
  stationDirectionText :=
    (((times.bind TimeDestination.destination1).bind (strip W wordsToRemove)).map
      fun destination => some s!"{destination} | {stop.direction}").getD cell.stationDirectionText
  timeText1 := ((times.bind TimeDestination.time1).map (firstTime W)).getD cell.timeText1
  timeText2 := ((times.bind TimeDestination.time2).map (changeTime W)).getD cell.timeText2
  timeText3 := ((times.bind TimeDestination.time3).map (changeTime W)).getD cell.timeText3

/-- Nothing traps: the row of a stop has a direction. -/
theorem cellForItemAt_row (cell : StopCell) (stop : SavedStop) (times : Option TimeDestination) :
    cell.cellForItemAt W stop.row times = some (setTo W stop times cell) := by
  have named : cell.setLineText W stop.row.stationName =
      some { cell with
        lineText := ((strip W wordsToRemove stop.stationName).map some).getD cell.lineText } := by
    simp only [StopCell.setLineText, SavedStop.row, labelLoop_eq]
    cases strip W wordsToRemove stop.stationName <;> rfl
  have directed (cell : StopCell) : cell.setDirection W (times.bind TimeDestination.destination1)
      stop.row.directionName = some { cell with
        stationDirectionText :=
          (((times.bind TimeDestination.destination1).bind (strip W wordsToRemove)).map
            fun destination => some s!"{destination} | {stop.direction}").getD
              cell.stationDirectionText } := by
    cases times.bind TimeDestination.destination1 with
    | none => rfl
    | some destination =>
        simp only [StopCell.setDirection, SavedStop.row, labelLoop_eq, Option.bind_some]
        cases strip W wordsToRemove destination <;> rfl
  simp only [StopCell.cellForItemAt, named, directed, Option.bind_eq_bind, Option.bind_some]
  rfl

/-- The rows of the page are rows of stops. -/
theorem row_of_run {F : Frameworks} {history : Machine.History HomePage Event} {s : HomePage}
    (run : (homePage F).Run history s) :
    ∀ row ∈ s.finalTableArray, ∃ stop : SavedStop, row = stop.row := by
  apply run.invariant
    (I := fun _ s => ∀ row ∈ s.finalTableArray, ∃ stop : SavedStop, row = stop.row)
  · rintro s ⟨currentUser, store, rfl⟩
    rw [viewDidLoad, getSavedStops_eq]
    simp
  · intro history s e s' _ rows enabled stepped
    cases next_of_step F enabled stepped with
    | refreshData => simp
    | stopsFailed k => simp
    | stopsSnapshot k documents distinct =>
        intro row member
        obtain ⟨stop, -, rfl⟩ := List.mem_map.1 member
        exact ⟨stop, rfl⟩
    | deleted item ref isTapped =>
        exact fun row member => rows row (List.mem_of_mem_eraseIdx member)
    | moved source destination row entry foundRow foundEntry inRows inTimes =>
        intro other member
        rcases List.eq_or_mem_of_mem_insertIdx member with rfl | kept
        · exact rows _ (List.mem_of_getElem? foundRow)
        · exact rows other (List.mem_of_mem_eraseIdx kept)
    | _ => exact rows

/-! ## Whose data a row shows -/

/-- The cells of the stops, with the row and the times they are set to. -/
def stopCells (W : Foundation) : Display StopCell (TableArray × Option TimeDestination) where
  fresh := {}
  Valid input := ∃ stop : SavedStop, input.1 = stop.row
  configure cell input := cell.cellForItemAt W input.1 input.2
  prepareForReuse := StopCell.prepareForReuse

/-- The text is one the loop strips. -/
def Suffixed (W : Foundation) (text : String) : Prop :=
  ∃ word ∈ wordsToRemove, W.Occurs word text

/-- Every part of the row has its data, and the texts of the labels are stripped. -/
structure Complete (W : Foundation) (data : TableArray) (times : TimeDestination) : Prop where
  name : ∃ name, data.stationName = some name ∧ Suffixed W name
  time1 : times.time1.isSome
  time2 : times.time2.isSome
  time3 : times.time3.isSome
  destination : ∃ destination, times.destination1 = some destination ∧ Suffixed W destination

/-- A cell at hand that has no text in common with a new one. -/
theorem exists_used (W : Foundation) : ∃ cell, (stopCells W).AtHand cell ∧
    cell.lineText ≠ some "Jubilee Line" ∧ cell.stationDirectionText ≠ some "Southwark Westbound" ∧
    cell.timeText1 ≠ some "" ∧ cell.timeText2 ≠ some "" ∧ cell.timeText3 ≠ some "" := by
  obtain ⟨seconds, visible⟩ := W.visible
  let stop : SavedStop := ⟨"", "", "", "", "", ""⟩
  let times : TimeDestination := ⟨some seconds, some seconds, some seconds, none, none, none⟩
  have valid : (stopCells W).Valid (stop.row, some times) := ⟨stop, rfl⟩
  have used : (stopCells W).AtHand (setTo W stop (some times) {}).prepareForReuse :=
    .reused .fresh valid (cellForItemAt_row _ _ _)
  have first : firstTime W seconds ≠ some "" := by
    rw [firstTime]
    split
    · decide
    · exact visible
  refine ⟨_, used, ?_, ?_, first, visible, visible⟩
  · show some "" ≠ some "Jubilee Line"
    decide
  · show some "" ≠ some "Southwark Westbound"
    decide

/-- **A row shows only its own data precisely when it is complete.** -/
theorem rowShowsOwn_iff {F : Frameworks} {history : Machine.History HomePage Event} {s : HomePage}
    (run : (homePage F).Run history s) {data : TableArray} (isRow : data ∈ s.finalTableArray)
    (times : Option TimeDestination) :
    (stopCells W).ShowsOwn (data, times) ↔ ∃ given, times = some given ∧ Complete W data given := by
  obtain ⟨stop, rfl⟩ := row_of_run run data isRow
  have configured : ∀ cell, (stopCells W).configure cell (stop.row, times) =
      some (setTo W stop times cell) := fun cell => cellForItemAt_row cell stop times
  constructor
  · -- each part is compared on a new cell and on one that was used
    intro own
    obtain ⟨cell, used, line, direction, time1, time2, time3⟩ := exists_used W
    have named := own.given_isSome configured StopCell.lineText (fun _ => rfl) used .fresh line
    have directed := own.given_isSome configured StopCell.stationDirectionText (fun _ => rfl)
      used .fresh direction
    have first := own.given_isSome configured StopCell.timeText1 (fun _ => rfl) used .fresh time1
    have second := own.given_isSome configured StopCell.timeText2 (fun _ => rfl) used .fresh time2
    have third := own.given_isSome configured StopCell.timeText3 (fun _ => rfl) used .fresh time3
    rw [Option.isSome_map] at named directed first second third
    cases times with
    | none => cases first
    | some given =>
        obtain ⟨stripped, isStripped⟩ := Option.isSome_iff_exists.1 directed
        obtain ⟨destination, present, found⟩ := Option.bind_eq_some_iff.1 isStripped
        refine ⟨given, rfl, ⟨stop.stationName, rfl, strip_isSome_iff.1 named⟩, first, second, third,
          destination, present, strip_isSome_iff.1 ?_⟩
        rw [found]
        rfl
  · rintro ⟨given, rfl, ⟨name, named, suffixed⟩, time1, time2, time3, destination, present,
      suffixed'⟩
    cases named
    obtain ⟨line, stripped⟩ := Option.isSome_iff_exists.1 (strip_isSome_iff.2 suffixed)
    obtain ⟨direction, stripped'⟩ := Option.isSome_iff_exists.1 (strip_isSome_iff.2 suffixed')
    obtain ⟨first, present1⟩ := Option.isSome_iff_exists.1 time1
    obtain ⟨second, present2⟩ := Option.isSome_iff_exists.1 time2
    obtain ⟨third, present3⟩ := Option.isSome_iff_exists.1 time3
    refine Display.showsOwn_of_constant
      ⟨returnColorValue stop.line, some line, some s!"{direction} | {stop.direction}",
        firstTime W first, changeTime W second, changeTime W third⟩ fun cell => ?_
    rw [configured]
    simp [setTo, stripped, stripped', present, present1, present2, present3]

/-- One stop, listed and shown. -/
def oneStopListed : List Event :=
  [.stopsSnapshot 0 (.snapshot [sampleDocument "a"]), .mainQueue]

/-- Three trains to one destination. -/
def threeTrains : TimeDestination where
  time1 := some 60
  time2 := some 240
  time3 := some 600
  destination1 := some "Brixton Underground Station"
  destination2 := some "Brixton Underground Station"
  destination3 := some "Brixton Underground Station"

theorem rowShowsOwn_iff_three_trains :
    ∃ history s data, (homePage .reference).Run history s ∧ data ∈ s.finalTableArray ∧
      ((stopCells .reference).ShowsOwn (data, some threeTrains) ↔
        ∃ given, some threeTrains = some given ∧ Complete .reference data given) := by
  obtain ⟨history, s, run, -, length⟩ := Machine.exec_reaches (M := homePage .reference)
    (fun _ s => s.finalTableArray.length) ⟨some "u", .empty, rfl⟩ oneStopListed 1 (by decide)
  obtain ⟨data, rest, rows⟩ := List.exists_cons_of_length_eq_add_one length
  have isRow : data ∈ s.finalTableArray := by
    rw [rows]
    exact List.mem_cons_self
  exact ⟨history, s, data, run, isRow, rowShowsOwn_iff run isRow _⟩

/-- A stop on another line. -/
def otherStop : SavedStop :=
  ⟨"Jubilee", "jubilee", "Eastbound - Platform 2", "940GZZLUSTD",
    "Stratford Underground Station", "b"⟩

/-- A cell that showed three trains at `otherStop`. -/
def usedCell : StopCell :=
  (setTo .reference otherStop (some threeTrains) {}).prepareForReuse

theorem usedCell_atHand : (stopCells .reference).AtHand usedCell := by
  have valid : (stopCells .reference).Valid (otherStop.row, some threeTrains) := ⟨otherStop, rfl⟩
  exact .reused .fresh valid (cellForItemAt_row _ _ _)

/-- The refuting pole: the times of a row have not come, and the cell it is given shows
those of another stop. -/
theorem times_of_the_earlier_row :
    ∃ history s data new used, (homePage .reference).Run history s ∧
      s.finalTableArray[0]? = some data ∧ s.timeArray = [] ∧
      (stopCells .reference).AtHand usedCell ∧
      s.stopCell .reference {} 0 = some new ∧ new.timeText1 = some "" ∧
      s.stopCell .reference usedCell 0 = some used ∧ used.timeText1 = some "1 min" ∧
      ¬ (stopCells .reference).ShowsOwn (data, none) := by
  obtain ⟨history, s, run, -, seen⟩ := Machine.exec_reaches (M := homePage .reference)
    (fun _ s => (s.finalTableArray.length, s.timeArray.length,
      (s.stopCell .reference {} 0).map StopCell.timeText1,
      (s.stopCell .reference usedCell 0).map StopCell.timeText1))
    ⟨some "u", .empty, rfl⟩ oneStopListed (1, 0, some (some ""), some (some "1 min")) (by decide)
  simp only [Prod.mk.injEq, Option.map_eq_some_iff] at seen
  obtain ⟨rows, times, ⟨new, isNew, noTime⟩, used, isUsed, stale⟩ := seen
  obtain ⟨data, rest, listed⟩ := List.exists_cons_of_length_eq_add_one rows
  have here : s.finalTableArray[0]? = some data := by rw [listed]; rfl
  have none_yet := List.length_eq_zero_iff.1 times
  refine ⟨history, s, data, new, used, run, here, none_yet, usedCell_atHand, isNew, noTime, isUsed,
    stale, fun own => ?_⟩
  obtain ⟨shown, fromNew, fromUsed⟩ := own {} usedCell .fresh usedCell_atHand
  have one : (some new : Option StopCell) = some shown := by
    rw [← isNew, ← fromNew, HomePage.stopCell, here, none_yet]
    rfl
  have two : (some used : Option StopCell) = some shown := by
    rw [← isUsed, ← fromUsed, HomePage.stopCell, here, none_yet]
    rfl
  cases one
  cases two
  exact absurd (noTime.symm.trans stale) (by decide)

end HomePage

end MindTheGap
