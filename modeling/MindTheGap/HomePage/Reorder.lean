/-
# HomePage.Reorder -- a row dragged to another place

`moveItemAt` takes the entry at one place out of each array and puts it in at another.
With as many times as rows this is one move of the pairs, and moving back undoes it
(`moveItemAt_carries`).

The view vouches for the places within `finalTableArray` only; `timeArray` has its own
length, and `remove(at:)` and `insert(_:at:)` trap beyond it.  Every move is within bounds
(`MovesInBounds`) precisely when there are at least as many times as rows.  Over a run, that
compares the rows the last collection snapshot listed, less those deleted since
(`rowsListed`; a refresh leaves none), with the times closures that have run since the
arrays were cleared (`timesArrived`): `movesInBounds_iff`.
-/
import MindTheGap.Theory.Reorder
import MindTheGap.HomePage.Effects

namespace MindTheGap

open MindTheGap.Theory

set_option autoImplicit false

namespace HomePage

theorem insertAt_eq_some {α : Type} {xs : List α} {i : Nat} (x : α) (fits : i ≤ xs.length) :
    insertAt xs x i = some (xs.insertIdx i x) :=
  if_pos fits

/-- A move within both arrays. -/
theorem moveItemAt_arrays {s : HomePage} {source destination : Nat} {row : TableArray}
    {entry : TimesEntry} (foundRow : s.finalTableArray[source]? = some row)
    (foundEntry : s.timeArray[source]? = some entry)
    (inRows : destination < s.finalTableArray.length)
    (inTimes : destination < s.timeArray.length) :
    ∃ s', s.moveItemAt source destination = some s' ∧
      s'.finalTableArray = Reorder.move s.finalTableArray source destination row ∧
      s'.timeArray = Reorder.move s.timeArray source destination entry := by
  have lessRows := List.length_eraseIdx_of_lt (List.getElem?_eq_some_iff.1 foundRow).1
  have lessTimes := List.length_eraseIdx_of_lt (List.getElem?_eq_some_iff.1 foundEntry).1
  have fitsRows : destination ≤ (s.finalTableArray.eraseIdx source).length := by omega
  have fitsTimes : destination ≤ (s.timeArray.eraseIdx source).length := by omega
  simp [moveItemAt, removeAt_eq_some.2 ⟨foundRow, rfl⟩, removeAt_eq_some.2 ⟨foundEntry, rfl⟩,
    insertAt_eq_some row fitsRows, insertAt_eq_some entry fitsTimes, reloadData, Reorder.move]

/-! ## What a move does to the rows and their times -/

/-- The rows with their times. -/
def pairs (s : HomePage) : List (TableArray × TimesEntry) :=
  s.finalTableArray.zip s.timeArray

/-- **A move carries the times along and can be undone.** -/
theorem moveItemAt_carries {s : HomePage}
    (same : s.finalTableArray.length = s.timeArray.length) {source destination : Nat}
    (sourceIn : source < s.finalTableArray.length)
    (destinationIn : destination < s.finalTableArray.length) :
    ∃ s', s.moveItemAt source destination = some s' ∧
      s'.finalTableArray.length = s.finalTableArray.length ∧
      s'.timeArray.length = s.finalTableArray.length ∧
      Reorder.Moved source destination s.pairs s'.pairs ∧
      ∃ s'', s'.moveItemAt destination source = some s'' ∧
        s''.finalTableArray = s.finalTableArray ∧ s''.timeArray = s.timeArray := by
  have timesIn : source < s.timeArray.length := by omega
  have timesIn' : destination < s.timeArray.length := by omega
  have foundRow := List.getElem?_eq_getElem sourceIn
  have foundEntry := List.getElem?_eq_getElem timesIn
  obtain ⟨s', moved, rows, times⟩ := moveItemAt_arrays foundRow foundEntry destinationIn timesIn'
  have rowsLength := Reorder.length_move foundRow destinationIn
  have timesLength := Reorder.length_move foundEntry timesIn'
  rw [← rows] at rowsLength
  rw [← times] at timesLength
  refine ⟨s', moved, rowsLength, by omega, ?_, ?_⟩
  · unfold pairs
    rw [rows, times, Reorder.zip_move same foundRow foundEntry destinationIn]
    apply Reorder.moved_move
    · exact List.getElem?_zip_eq_some.2 ⟨foundRow, foundEntry⟩
    · rw [List.length_zip]
      omega
  · have rowThere := (Reorder.moved_move foundRow destinationIn).arrives.trans foundRow
    have entryThere := (Reorder.moved_move foundEntry timesIn').arrives.trans foundEntry
    rw [← rows] at rowThere
    rw [← times] at entryThere
    have backIn : source < s'.finalTableArray.length := by omega
    have backIn' : source < s'.timeArray.length := by omega
    obtain ⟨s'', back, rows', times'⟩ := moveItemAt_arrays rowThere entryThere backIn backIn'
    rw [rows, Reorder.move_back foundRow] at rows'
    rw [times, Reorder.move_back foundEntry] at times'
    exact ⟨s'', back, rows', times'⟩

theorem moveItemAt_carries_two_rows :
    ∃ s', twoRows.moveItemAt 0 1 = some s' ∧ s'.finalTableArray.length = 2 ∧
      s'.timeArray.length = 2 ∧ Reorder.Moved 0 1 twoRows.pairs s'.pairs ∧
      ∃ s'', s'.moveItemAt 1 0 = some s'' ∧
        s''.finalTableArray = twoRows.finalTableArray ∧ s''.timeArray = twoRows.timeArray :=
  moveItemAt_carries (s := twoRows) rfl (by decide) (by decide)

/-! ## Moves within bounds -/

/-- No move between two rows traps. -/
def MovesInBounds (s : HomePage) : Prop :=
  ∀ source destination, source < s.finalTableArray.length →
    destination < s.finalTableArray.length → (s.moveItemAt source destination).isSome = true

theorem movesInBounds_iff_length {s : HomePage} :
    s.MovesInBounds ↔ s.finalTableArray.length ≤ s.timeArray.length := by
  constructor
  · intro bounds
    by_contra short
    have first : s.timeArray.length < s.finalTableArray.length := by omega
    -- the first row without times cannot be moved
    obtain ⟨s', moved⟩ := Option.isSome_iff_exists.1 (bounds _ _ first first)
    obtain ⟨_, entry, -, foundEntry, -⟩ := moveItemAt_cases moved
    have beyond := (List.getElem?_eq_some_iff.1 foundEntry).1
    omega
  · intro enough source destination sourceIn destinationIn
    have timesIn : source < s.timeArray.length := by omega
    obtain ⟨s', moved, -⟩ := moveItemAt_arrays (List.getElem?_eq_getElem sourceIn)
      (List.getElem?_eq_getElem timesIn) destinationIn (by omega)
    rw [moved]
    rfl

/-- The rows the last collection snapshot listed, less those deleted since; none after a
refresh, or a call with an error, that came later. -/
def rowsListed : Machine.History HomePage Event → Nat
  | [] => 0
  | (_, .refreshData) :: _ => 0
  | (_, .stopsSnapshot _ .failed) :: _ => 0
  | (_, .stopsSnapshot _ (.snapshot documents)) :: _ => (leading documents).length
  | (s, .hiddenContainerViewTapped indexPath) :: history =>
      if (s.tappedStop indexPath).isSome then rowsListed history - 1 else rowsListed history
  | _ :: history => rowsListed history

/-- The times closures that have run since the arrays were last cleared. -/
def timesArrived : Machine.History HomePage Event → Nat
  | [] => 0
  | (_, .refreshData) :: _ => 0
  | (_, .stopsSnapshot _ _) :: _ => 0
  | (s, .mainQueue) :: history => timesArrived history + (s.appending .mainQueue).toList.length
  | _ :: history => timesArrived history

/-- The arrays have the lengths the run gave them. -/
structure Counted (history : Machine.History HomePage Event) (s : HomePage) : Prop where
  rows : s.finalTableArray.length = rowsListed history
  times : s.timeArray.length = timesArrived history

theorem Counted.step {F : Frameworks} {history : Machine.History HomePage Event}
    {s s' : HomePage} {e : Event} (counted : Counted history s) (next : Next F s e s') :
    Counted ((s, e) :: history) s' := by
  obtain ⟨rows, times⟩ := counted
  cases next with
  | stopsSnapshot k documents distinct => exact ⟨List.length_map _, rfl⟩
  | mainQueue task tasks queue =>
      refine ⟨rows, ?_⟩
      simp [timesArrived, appending, queue, times]
  | tapIgnored indexPath nothing =>
      refine ⟨?_, times⟩
      simpa [rowsListed, nothing] using rows
  | deleted item ref isTapped =>
      obtain ⟨-, item, row, isItem, foundRow, -⟩ := tappedStop_eq_some.1 isTapped
      cases isItem
      have here := (List.getElem?_eq_some_iff.1 foundRow).1
      refine ⟨?_, times⟩
      simp [rowsListed, isTapped, List.length_eraseIdx_of_lt here, rows]
  | moved source destination row entry foundRow foundEntry inRows inTimes =>
      exact ⟨(Reorder.length_move foundRow inRows).trans rows,
        (Reorder.length_move foundEntry inTimes).trans times⟩
  | refreshData => exact ⟨rfl, rfl⟩
  | stopsFailed k => exact ⟨rfl, rfl⟩
  | _ => exact ⟨rows, times⟩

theorem counted_of_run {F : Frameworks} {history : Machine.History HomePage Event}
    {s : HomePage} (run : (homePage F).Run history s) : Counted history s := by
  apply run.invariant (I := Counted)
  · rintro s ⟨currentUser, store, rfl⟩
    rw [viewDidLoad, getSavedStops_eq]
    exact ⟨rfl, rfl⟩
  · intro history s e s' _ counted enabled stepped
    exact counted.step (next_of_step F enabled stepped)

/-- **When no move of a row traps.**  After a refresh there is no row to move until the
next snapshot, and the condition holds. -/
theorem movesInBounds_iff {F : Frameworks} {history : Machine.History HomePage Event}
    {s : HomePage} (run : (homePage F).Run history s) :
    s.MovesInBounds ↔ rowsListed history ≤ timesArrived history := by
  have counted := counted_of_run run
  rw [movesInBounds_iff_length, counted.rows, counted.times]

theorem movesInBounds_iff_two_stops :
    ∃ history s, (homePage .reference).Run history s ∧ s.finalTableArray.length = 2 ∧
      (s.moveItemAt 0 1).isSome = true ∧
      (s.MovesInBounds ↔ rowsListed history ≤ timesArrived history) := by
  obtain ⟨history, s, run, -, seen⟩ := Machine.exec_reaches (M := homePage .reference)
    (fun _ s => (s.finalTableArray.length, (s.moveItemAt 0 1).isSome))
    ⟨some "u", .empty, rfl⟩ bothArrived (2, true) (by decide)
  rw [Prod.mk.injEq] at seen
  exact ⟨history, s, run, seen.1, seen.2, movesInBounds_iff run⟩

/-- The refuting pole: two rows are shown, no times have come, and one is dragged. -/
theorem move_before_times_traps :
    ∃ history s, (homePage .reference).Run history s ∧
      (homePage .reference).Enabled s (.moveItemAt 0 1) ∧
      (homePage .reference).step s (.moveItemAt 0 1) = none ∧ ¬ s.MovesInBounds := by
  obtain ⟨history, s, run, -, seen⟩ := Machine.exec_reaches (M := homePage .reference)
    (fun _ s => (s.shown.length, s.finalTableArray.length, (s.moveItemAt 0 1).isSome))
    ⟨some "u", .empty, rfl⟩
    [.stopsSnapshot 0 (.snapshot [sampleDocument "a", sampleDocument "b"]), .mainQueue]
    (2, 2, false) (by decide)
  simp only [Prod.mk.injEq] at seen
  obtain ⟨onView, rows, result⟩ := seen
  have traps : s.moveItemAt 0 1 = none := by simpa using result
  refine ⟨history, s, run, ?_, traps, fun bounds => ?_⟩
  · show 0 < s.shown.length ∧ 1 < s.shown.length
    omega
  · have moves := bounds 0 1 (by omega) (by omega)
    rw [result] at moves
    cases moves

end HomePage

end MindTheGap
