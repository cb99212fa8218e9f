/-
# HomePage.DeletedRow -- what a deletion does to the other rows

A tap on the delete area of row `item` takes the row out of `finalTableArray` and deletes
its two documents.  The other rows should stay as they were, each with its times
(`LeavesOthers`): then both arrays lose the entry at `item`.

The tap leaves `timeArray` alone.  The array is one entry too long afterwards, and every
later row stands beside the times of the row before it: `leavesOthers_never` says that no
deletion leaves the other rows as they were.  The stored documents are the row's own two.
-/
import MindTheGap.HomePage.Effects

namespace MindTheGap

open MindTheGap.Theory

set_option autoImplicit false

namespace HomePage

/-- A store without the documents of one stop, and otherwise as before. -/
structure OnlyDeletes (store store' : Firestore) (ref : DocRef) : Prop where
  stop : store'.savedStops ref = none
  times : store'.arrivalTimes ref = none
  others : ∀ other, other ≠ ref → store'.savedStops other = store.savedStops other ∧
    store'.arrivalTimes other = store.arrivalTimes other

/-- The row at `item` is gone, with its times and its documents, and nothing else is. -/
structure LeavesOthers (s s' : HomePage) (item : Nat) (ref : DocRef) : Prop where
  rows : s'.finalTableArray = s.finalTableArray.eraseIdx item
  times : s'.timeArray = s.timeArray.eraseIdx item
  paired : s'.finalTableArray.length = s'.timeArray.length
  before : ∀ i < item, s'.finalTableArray[i]? = s.finalTableArray[i]? ∧
    s'.timeArray[i]? = s.timeArray[i]?
  after : ∀ i, item < i → s'.finalTableArray[i - 1]? = s.finalTableArray[i]? ∧
    s'.timeArray[i - 1]? = s.timeArray[i]?
  documents : OnlyDeletes s.store s'.store ref

theorem onlyDeletes_delete (store : Firestore) (ref : DocRef) :
    OnlyDeletes store ((store.deleteStop ref).deleteArrivalTimes ref) ref := by
  refine ⟨Function.update_self _ _ _, Function.update_self _ _ _, ?_⟩
  intro other away
  exact ⟨Function.update_of_ne away _ _, Function.update_of_ne away _ _⟩

/-- **A deletion shifts the times of the later rows.**  It removes the row and its
documents only, and never its times. -/
theorem leavesOthers_never {s : HomePage} {item : Nat} {row : TableArray} {ref : DocRef}
    (same : s.finalTableArray.length = s.timeArray.length)
    (found : s.finalTableArray[item]? = some row) (named : row.documentID = some ref.documentID)
    (user : s.currentUser = some ref.uid) :
    ∃ s', s.hiddenContainerViewTapped (some item) = some s' ∧
      s'.finalTableArray = s.finalTableArray.eraseIdx item ∧ s'.timeArray = s.timeArray ∧
      OnlyDeletes s.store s'.store ref ∧ ¬ LeavesOthers s s' item ref := by
  have here := (List.getElem?_eq_some_iff.1 found).1
  have isTapped : s.tappedStop (some item) = some ref :=
    tappedStop_eq_some.2 ⟨user, item, row, rfl, found, named⟩
  have succeeds : ∃ s', s.hiddenContainerViewTapped (some item) = some s' := by
    simp [hiddenContainerViewTapped, user, found, named]
  obtain ⟨s', tapped⟩ := succeeds
  rcases hiddenContainerViewTapped_cases tapped with ⟨nothing, -⟩ | ⟨_, _, isItem, isRef, rfl⟩
  · rw [isTapped] at nothing
    cases nothing
  · cases isItem
    cases isTapped.symm.trans isRef
    refine ⟨_, tapped, rfl, rfl, onlyDeletes_delete s.store ref, ?_⟩
    intro leaves
    have lengths : (s.finalTableArray.eraseIdx item).length = s.timeArray.length := leaves.paired
    rw [List.length_eraseIdx_of_lt here] at lengths
    omega

theorem leavesOthers_never_two_rows :
    ∃ s', twoRows.hiddenContainerViewTapped (some 0) = some s' ∧
      s'.finalTableArray = [⟨none, none, none, none, none, some "b"⟩] ∧
      s'.timeArray = twoRows.timeArray ∧ OnlyDeletes twoRows.store s'.store ⟨"u", "a"⟩ ∧
      ¬ LeavesOthers twoRows s' 0 ⟨"u", "a"⟩ :=
  leavesOthers_never rfl rfl rfl rfl

/-- The refuting pole: after the row of `a` is deleted, the row of `b` stands beside the
times of `a`. -/
theorem later_row_takes_earlier_times :
    ∃ history s s', (homePage .reference).Run history s ∧
      s.finalTableArray.length = s.timeArray.length ∧ s.tappedStop (some 0) = some ⟨"u", "a"⟩ ∧
      s.hiddenContainerViewTapped (some 0) = some s' ∧
      (s'.finalTableArray[0]?.map TableArray.documentID) = some (some "b") ∧
      (s'.timeArray[0]?.map TimesEntry.documentName) = some "a" ∧
      ¬ LeavesOthers s s' 0 ⟨"u", "a"⟩ := by
  obtain ⟨history, s, run, -, seen⟩ := Machine.exec_reaches (M := homePage .reference)
    (fun _ s => (decide (s.finalTableArray.length = s.timeArray.length ∧
        s.tappedStop (some 0) = some ⟨"u", "a"⟩),
      (s.hiddenContainerViewTapped (some 0)).map fun s' =>
        (s'.finalTableArray.map TableArray.documentID, s'.timeArray.map TimesEntry.documentName)))
    ⟨some "u", .empty, rfl⟩ bothArrived (true, some ([some "b"], ["a", "b"])) (by decide)
  simp only [Prod.mk.injEq, Option.map_eq_some_iff, decide_eq_true_eq] at seen
  obtain ⟨⟨same, isTapped⟩, s', tapped, ids, names⟩ := seen
  refine ⟨history, s, s', run, same, isTapped, tapped, ?_, ?_, ?_⟩
  · rw [← List.getElem?_map, ids]
    rfl
  · rw [← List.getElem?_map, names]
    rfl
  · intro leaves
    have lengths := leaves.paired
    have one := congrArg List.length ids
    have two := congrArg List.length names
    simp only [List.length_map, List.length_cons, List.length_nil] at one two
    omega

end HomePage

end MindTheGap
