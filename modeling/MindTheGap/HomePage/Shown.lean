/-
# HomePage.Shown -- the list on screen and the array behind it

The collection view asks for cells and reports taps by index into what it last
loaded, `shown`; the page answers from `finalTableArray`.  The two should agree
between any two tasks of the main thread (`OnScreen`): then a cell of a shown row is
in bounds, and a tap deletes the stop whose row was tapped.

The collection listener and `refreshData` change the array in one task and leave the
reload to a later one, or to none.  `onScreen_iff` is the exact condition: no such
step changes the ids of the rows (`Unmoved`).  Deletes, moves and the queued closures
tell the view in the same task, so they meet it always.  As the page begins without rows,
it comes to no row ever being listed (`no_rows_of_unmoved`).
-/
import MindTheGap.HomePage.Effects

namespace MindTheGap

open MindTheGap.Theory

set_option autoImplicit false

namespace HomePage

/-- The ids of the rows the page would answer with. -/
def rowIds (s : HomePage) : List (Option String) :=
  s.finalTableArray.map TableArray.documentID

/-- What the view shows is what the page holds. -/
structure OnScreen (s : HomePage) : Prop where
  same : s.shown = s.rowIds
  /-- `finalTableArray[indexPath.row]` of `cellForItemAt` -/
  cell : ∀ item < s.shown.length, ∃ row, s.finalTableArray[item]? = some row
  /-- A tap on a shown row deletes that row's documents. -/
  tapped : ∀ item uid documentID, s.currentUser = some uid →
    s.shown[item]? = some (some documentID) →
    ∃ s', s.hiddenContainerViewTapped (some item) = some s' ∧
      s'.store = (s.store.deleteStop ⟨uid, documentID⟩).deleteArrivalTimes ⟨uid, documentID⟩

/-- The rows a step of the collection listener or of `refreshData` leaves have the ids
of the rows it found.  In a run from `viewDidLoad` all steps meet this only while no row
is listed. -/
def Unmoved (s : HomePage) : Event → Prop
  | .refreshData => s.finalTableArray = []
  | .stopsSnapshot _ .failed => s.finalTableArray = []
  | .stopsSnapshot _ (.snapshot documents) =>
      (leading documents).map (fun stop => some stop.documentID) = s.rowIds
  | _ => True

theorem onScreen_of_same {s : HomePage} (same : s.shown = s.rowIds) : OnScreen s := by
  refine ⟨same, ?_, ?_⟩
  · intro item inside
    rw [same, rowIds, List.length_map] at inside
    exact ⟨_, List.getElem?_eq_getElem inside⟩
  · intro item uid documentID user found
    rw [same, rowIds, List.getElem?_map, Option.map_eq_some_iff] at found
    obtain ⟨row, isRow, named⟩ := found
    simp [hiddenContainerViewTapped, user, isRow, named, reloadData]

theorem onScreen_iff_same {s : HomePage} : OnScreen s ↔ s.shown = s.rowIds :=
  ⟨OnScreen.same, onScreen_of_same⟩

/-- One step from a state that agrees leaves one that agrees precisely if it is
`Unmoved`. -/
theorem onScreen_step (F : Frameworks) {s s' : HomePage} {e : Event} (agrees : OnScreen s)
    (next : Next F s e s') : OnScreen s' ↔ s.Unmoved e := by
  have same := agrees.same
  have emptied : s.shown = [] ↔ s.finalTableArray = [] := by
    rw [same, rowIds, List.map_eq_nil_iff]
  rw [onScreen_iff_same]
  cases next with
  -- the rows change, and nothing tells the view
  | refreshData =>
      show s.shown = [] ↔ s.finalTableArray = []
      exact emptied
  | stopsFailed k =>
      show s.shown = [] ↔ s.finalTableArray = []
      exact emptied
  | stopsSnapshot k documents distinct =>
      show s.shown = ((leading documents).map SavedStop.row).map _ ↔ _
      rw [same, List.map_map, eq_comm]
      exact Iff.rfl
  -- the view is told in the same task
  | mainQueue task tasks queue => exact iff_of_true rfl trivial
  | deleted item ref isTapped => exact iff_of_true rfl trivial
  | moved source destination row entry foundRow foundEntry inRows inTimes =>
      exact iff_of_true rfl trivial
  -- the rows stay
  | getSavedStops => exact iff_of_true same trivial
  | timesFailed k => exact iff_of_true same trivial
  | timesSnapshot k contents own => exact iff_of_true same trivial
  | timerFired k => exact iff_of_true same trivial
  | noData k response request issued records => exact iff_of_true same trivial
  | response k response request times writes issued records ran => exact iff_of_true same trivial
  | tapIgnored indexPath nothing => exact iff_of_true same trivial
  | authChanged uid => exact iff_of_true same trivial

/-- **When the screen never disagrees with the page.**  It disagrees from the first snapshot
that lists a row until the queued reload. -/
theorem onScreen_iff (F : Frameworks) {history : Machine.History HomePage Event} {s : HomePage}
    (run : (homePage F).Run history s) :
    ((∀ x ∈ history, OnScreen x.1) ∧ OnScreen s) ↔ ∀ x ∈ history, Unmoved x.1 x.2 := by
  apply Machine.Run.forall_states_iff _ _ run
  · rintro s ⟨currentUser, store, rfl⟩
    rw [viewDidLoad, getSavedStops_eq]
    exact onScreen_of_same rfl
  · intro history s e s' _ agrees enabled stepped
    exact onScreen_step F agrees (next_of_step F enabled stepped)

/-- One stop is listed and the table reloaded. -/
theorem onScreen_iff_one_stop :
    ∃ history s, (homePage .reference).Run history s ∧ s.shown = [some "a"] ∧
      (((∀ x ∈ history, OnScreen x.1) ∧ OnScreen s) ↔ ∀ x ∈ history, Unmoved x.1 x.2) := by
  obtain ⟨history, s, run, -, onView⟩ := Machine.exec_reaches (M := homePage .reference)
    (fun _ s => s.shown) ⟨some "u", .empty, rfl⟩
    [.stopsSnapshot 0 (.snapshot [sampleDocument "a"]), .mainQueue] [some "a"] (by decide)
  exact ⟨history, s, run, onView, onScreen_iff .reference run⟩

/-- What the condition comes to in a run from `viewDidLoad`. -/
theorem no_rows_of_unmoved {F : Frameworks} {history : Machine.History HomePage Event}
    {s : HomePage} (run : (homePage F).Run history s) (met : ∀ x ∈ history, Unmoved x.1 x.2) :
    s.finalTableArray = [] := by
  apply run.invariant_of Unmoved (I := fun _ s => s.finalTableArray = []) _ _ met
  · rintro s ⟨currentUser, store, rfl⟩
    rw [viewDidLoad, getSavedStops_eq]
  · intro history s e s' _ none_yet enabled unmoved stepped
    have next := next_of_step F enabled stepped
    cases next with
    | refreshData => rfl
    | stopsFailed k => rfl
    | stopsSnapshot k documents distinct =>
        have same : (leading documents).map (fun stop => some stop.documentID) = s.rowIds :=
          unmoved
        rw [rowIds, none_yet, List.map_nil, List.map_eq_nil_iff] at same
        show (leading documents).map SavedStop.row = []
        rw [same, List.map_nil]
    | deleted item ref isTapped =>
        show s.finalTableArray.eraseIdx item = []
        rw [none_yet, List.eraseIdx_nil]
    | moved source destination row entry foundRow foundEntry inRows inTimes =>
        rw [none_yet] at foundRow
        cases foundRow
    | _ => exact none_yet

/-- The refuting pole: after `refreshData` the row of `a` is still on the screen and
nothing is queued that reloads it; a tap on it traps. -/
theorem tap_on_shown_row_traps :
    ∃ history s, (homePage .reference).Run history s ∧
      (homePage .reference).Enabled s (.hiddenContainerViewTapped (some 0)) ∧
      (homePage .reference).step s (.hiddenContainerViewTapped (some 0)) = none ∧
      ¬ OnScreen s := by
  obtain ⟨history, s, run, -, seen⟩ := Machine.exec_reaches (M := homePage .reference)
    (fun _ s => (s.shown, s.rowIds, (s.hiddenContainerViewTapped (some 0)).isSome))
    ⟨some "u", .empty, rfl⟩
    [.stopsSnapshot 0 (.snapshot [sampleDocument "a"]), .mainQueue, .refreshData]
    ([some "a"], [], false) (by decide)
  simp only [Prod.mk.injEq] at seen
  obtain ⟨onView, inArray, result⟩ := seen
  have traps : s.hiddenContainerViewTapped (some 0) = none := by simpa using result
  refine ⟨history, s, run, ?_, traps, fun agrees => ?_⟩
  · show 0 < s.shown.length
    rw [onView]
    decide
  · have same := agrees.same
    rw [onView, inArray] at same
    exact absurd same (by decide)

end HomePage

end MindTheGap
