/-
# HomePage.StopLabels -- the names a row shows

A row should show its station and its first destination without their suffixes, whatever
they are (`ShowsNames`): `Stripped` takes out the first occurrence of each of the two, one
after the other, where it occurs.

The labels are assigned inside the search, so a name that has neither suffix is not shown
at all.  `showsNames_iff` is the exact condition for a cell that was reset.
-/
import MindTheGap.HomePage.StopRow

namespace MindTheGap

open MindTheGap.Theory

set_option autoImplicit false

/-- `rest` is the text without the first occurrence of the word, or the text itself where
the word does not occur. -/
def Foundation.WithoutFirst (W : Foundation) (word text rest : String) : Prop :=
  (∃ before after, FirstAt W.divides word.toList [] text.toList before after ∧
      rest = String.ofList (before ++ after)) ∨
    ¬ W.Occurs word text ∧ rest = text

theorem Foundation.withoutFirst_iff {W : Foundation} {word text rest : String} :
    W.WithoutFirst word text rest ↔ rest = (W.removingRange word text).getD text := by
  cases removed : removeFirst W.divides word.toList [] text.toList with
  | none =>
      have absent : ¬ W.Occurs word text := by
        rw [← W.removingRange_isSome_iff, removingRange, removed]
        exact Bool.false_ne_true
      rw [removingRange, removed]
      constructor
      · rintro (⟨before, after, here, -⟩ | ⟨-, rfl⟩)
        · exact absurd ⟨before, after, here.split, here.divided, here.divided'⟩ absent
        · rfl
      · exact fun same => Or.inr ⟨absent, same⟩
  | some without =>
      have occurs : W.Occurs word text := by
        rw [← W.removingRange_isSome_iff, removingRange, removed]
        rfl
      obtain ⟨before, after, here, rfl⟩ := removeFirst_eq_some.1 removed
      rw [removingRange, removed]
      constructor
      · rintro (⟨before', after', here', rfl⟩ | ⟨absent, -⟩)
        · obtain ⟨rfl, rfl⟩ := here.unique here'
          rfl
        · exact absurd occurs absent
      · rintro rfl
        exact Or.inl ⟨before, after, here, rfl⟩

namespace HomePage

variable {W : Foundation}

/-- `rest` is the text without its suffixes. -/
def Stripped (W : Foundation) (text rest : String) : Prop :=
  ∃ between, W.WithoutFirst "Rail Station" text between ∧
    W.WithoutFirst "Underground Station" between rest

/-- The cell shows the station of the stop, and the destination of its next train with the
direction. -/
structure ShowsNames (W : Foundation) (stop : SavedStop) (times : Option TimeDestination)
    (shown : StopCell) : Prop where
  name : ∃ text, Stripped W stop.stationName text ∧ shown.lineText = some text
  destination : ∀ destination ∈ times.bind TimeDestination.destination1,
    ∃ text, Stripped W destination text ∧
      shown.stationDirectionText = some s!"{text} | {stop.direction}"

/-! ## The loop takes out each word once -/

theorem strip_getD (words : List String) (text : String) :
    (strip W words text).getD text =
      words.foldl (fun text word => (W.removingRange word text).getD text) text := by
  induction words generalizing text with
  | nil => rfl
  | cons word words ih =>
      rw [strip, List.foldl_cons]
      cases W.removingRange word text with
      | none => exact ih text
      | some rest => exact ih rest

theorem stripped_iff {text rest : String} :
    Stripped W text rest ↔ rest = (strip W wordsToRemove text).getD text := by
  rw [strip_getD]
  constructor
  · rintro ⟨between, first, second⟩
    rw [Foundation.withoutFirst_iff] at first second
    subst first
    exact second
  · rintro rfl
    exact ⟨_, Foundation.withoutFirst_iff.2 rfl, Foundation.withoutFirst_iff.2 rfl⟩

theorem strip_eq_none_iff {text : String} :
    strip W wordsToRemove text = none ↔ ¬ Suffixed W text := by
  rw [Suffixed, ← strip_isSome_iff, Option.not_isSome_iff_eq_none]

/-! ## The two labels -/

/-- What the reset label shows after the loop: the stripped text or nothing. -/
theorem name_iff (cell : StopCell) (stop : SavedStop) (times : Option TimeDestination) :
    (∃ text, Stripped W stop.stationName text ∧
      (setTo W stop times cell.prepareForReuse).lineText = some text) ↔
      stop.stationName = "" ∨ Suffixed W stop.stationName := by
  simp only [stripped_iff, exists_eq_left, setTo, StopCell.prepareForReuse]
  cases stripped : strip W wordsToRemove stop.stationName with
  | none =>
      show some "" = some stop.stationName ↔ _
      rw [Option.some.injEq, eq_comm, or_iff_left (strip_eq_none_iff.1 stripped)]
  | some text =>
      refine iff_of_true rfl (Or.inr (strip_isSome_iff.1 ?_))
      rw [stripped]
      rfl

theorem caption_visible (text direction : String) : s!"{text} | {direction}" ≠ "" := by
  intro empty
  have counted := congrArg String.length empty
  simp at counted
  exact absurd counted.1.2 (by decide)

theorem destination_iff (cell : StopCell) (stop : SavedStop) (times : Option TimeDestination)
    {destination : String} (isFirst : times.bind TimeDestination.destination1 = some destination) :
    (∃ text, Stripped W destination text ∧
      (setTo W stop times cell.prepareForReuse).stationDirectionText =
        some s!"{text} | {stop.direction}") ↔ Suffixed W destination := by
  simp only [stripped_iff, exists_eq_left, setTo, StopCell.prepareForReuse, isFirst,
    Option.bind_some]
  cases stripped : strip W wordsToRemove destination with
  | none =>
      refine iff_of_false (fun shown => ?_) (strip_eq_none_iff.1 stripped)
      exact caption_visible _ _ (Option.some.inj shown).symm
  | some text =>
      refine iff_of_true rfl (strip_isSome_iff.1 ?_)
      rw [stripped]
      rfl

/-- **When the names are shown.** -/
theorem showsNames_iff (W : Foundation) (cell : StopCell) (stop : SavedStop)
    (times : Option TimeDestination) :
    ∃ shown, cell.prepareForReuse.cellForItemAt W stop.row times = some shown ∧
      (ShowsNames W stop times shown ↔
        (stop.stationName = "" ∨ Suffixed W stop.stationName) ∧
          ∀ destination ∈ times.bind TimeDestination.destination1, Suffixed W destination) := by
  refine ⟨_, cellForItemAt_row _ stop times, ?_⟩
  rw [← name_iff cell stop times]
  constructor
  · rintro ⟨name, destinations⟩
    exact ⟨name, fun destination isFirst =>
      (destination_iff cell stop times isFirst).1 (destinations destination isFirst)⟩
  · rintro ⟨name, suffixed⟩
    exact ⟨name, fun destination isFirst =>
      (destination_iff cell stop times isFirst).2 (suffixed destination isFirst)⟩

/-- A stop whose station has neither suffix, and a train to another one. -/
def olympia : SavedStop :=
  ⟨"District", "district", "Northbound - Platform 1", "940GZZLUKOY", "Kensington (Olympia)", "a"⟩

def trainToEdgwareRoad : TimeDestination :=
  ⟨some 60, none, none, some "Edgware Road (Circle Line)", none, none⟩

/-- The refuting pole: names without a suffix are not shown. -/
theorem name_without_suffix :
    ∃ shown, (StopCell.prepareForReuse {}).cellForItemAt .reference olympia.row
        (some trainToEdgwareRoad) = some shown ∧
      shown.lineText = some "" ∧ shown.stationDirectionText = some "" ∧
      ¬ ShowsNames .reference olympia (some trainToEdgwareRoad) shown := by
  refine ⟨_, cellForItemAt_row _ _ _, by decide, by decide, fun names => ?_⟩
  obtain ⟨text, stripped, shown⟩ := names.name
  obtain rfl := stripped_iff.1 stripped
  revert shown
  decide

end HomePage

end MindTheGap
