/-
# Theory.FirstOccurrence -- the first occurrence of a word taken out of a text

A text may not be divided everywhere: what a reader sees as one character can be several
entries of the list.  `divides before after` says where it may, and a word occurs where
it is divided from both of its sides.  `removeFirst` takes out the first occurrence, and
is `none` where there is none (`removeFirst_eq_some`, `removeFirst_isSome_iff`).
-/
import Mathlib.Data.List.Infix

namespace MindTheGap.Theory

set_option autoImplicit false

universe u

variable {α : Type u} [BEq α] (divides : List α → List α → Bool) (word : List α)

/-- The word begins here, after the text `before`. -/
def beginsHere (before after : List α) : Bool :=
  word.isPrefixOf after && divides before after &&
    divides (before ++ word) (after.drop word.length)

/-- `before ++ after` without the first occurrence of `word` that begins in `after`. -/
def removeFirst (before : List α) : List α → Option (List α)
  | [] => if beginsHere divides word before [] then some before else none
  | x :: xs =>
      if beginsHere divides word before (x :: xs) then
        some (before ++ (x :: xs).drop word.length)
      else removeFirst (before ++ [x]) xs

/-- The word stands in the text, after `before`. -/
def OccursAfter (before text : List α) : Prop :=
  ∃ between after, text = between ++ word ++ after ∧
    divides (before ++ between) (word ++ after) ∧ divides (before ++ between ++ word) after

/-- The word stands first in the text, after `before`, between `between` and `after`. -/
structure FirstAt (before text between after : List α) : Prop where
  split : text = between ++ word ++ after
  divided : divides (before ++ between) (word ++ after)
  divided' : divides (before ++ between ++ word) after
  first : ∀ earlier later, text = earlier ++ word ++ later →
    divides (before ++ earlier) (word ++ later) → divides (before ++ earlier ++ word) later →
    between.length ≤ earlier.length

variable {divides word}

omit [BEq α] in
theorem occursAfter_cons {before xs : List α} {x : α}
    (later : OccursAfter divides word (before ++ [x]) xs) :
    OccursAfter divides word before (x :: xs) := by
  obtain ⟨between, after, rfl, divided, divided'⟩ := later
  exact ⟨x :: between, after, rfl, by simpa using divided, by simpa using divided'⟩

variable [LawfulBEq α]

theorem beginsHere_iff {before text : List α} :
    beginsHere divides word before text ↔ ∃ after, text = word ++ after ∧
      divides before (word ++ after) ∧ divides (before ++ word) after := by
  simp only [beginsHere, Bool.and_eq_true, List.isPrefixOf_iff_prefix]
  constructor
  · rintro ⟨⟨⟨after, rfl⟩, divided⟩, divided'⟩
    exact ⟨after, rfl, divided, by simpa using divided'⟩
  · rintro ⟨after, rfl, divided, divided'⟩
    exact ⟨⟨⟨after, rfl⟩, divided⟩, by simpa using divided'⟩

theorem occursAfter_of_beginsHere {before text : List α}
    (begins : beginsHere divides word before text) : OccursAfter divides word before text := by
  obtain ⟨after, rfl, divided, divided'⟩ := beginsHere_iff.1 begins
  exact ⟨[], after, rfl, by simpa using divided, by simpa using divided'⟩

/-- A word that stands in the text but does not begin here stands further on. -/
theorem later_of_not_beginsHere {before xs between after : List α} {x : α}
    (other : ¬ beginsHere divides word before (x :: xs))
    (split : x :: xs = between ++ word ++ after)
    (divided : divides (before ++ between) (word ++ after))
    (divided' : divides (before ++ between ++ word) after) :
    ∃ later, between = x :: later ∧ xs = later ++ word ++ after := by
  cases between with
  | nil =>
      refine absurd (beginsHere_iff.2 ⟨after, split, ?_, ?_⟩) other
      · simpa using divided
      · simpa using divided'
  | cons y later =>
      obtain ⟨rfl, rest⟩ := List.cons.inj split
      exact ⟨later, rfl, rest⟩

/-- A word is taken out precisely where it occurs. -/
theorem removeFirst_isSome_iff {before text : List α} :
    (removeFirst divides word before text).isSome ↔ OccursAfter divides word before text := by
  induction text generalizing before with
  | nil =>
      unfold removeFirst
      split
      · rename_i begins
        exact iff_of_true rfl (occursAfter_of_beginsHere begins)
      · rename_i other
        refine iff_of_false Bool.false_ne_true fun occurs => other (beginsHere_iff.2 ?_)
        obtain ⟨between, after, split, divided, divided'⟩ := occurs
        obtain ⟨rfl, rfl, rfl⟩ : between = [] ∧ word = [] ∧ after = [] := by
          simpa using split
        exact ⟨[], rfl, by simpa using divided, by simpa using divided'⟩
  | cons x xs ih =>
      unfold removeFirst
      split
      · rename_i begins
        exact iff_of_true rfl (occursAfter_of_beginsHere begins)
      · rename_i other
        rw [ih]
        refine ⟨occursAfter_cons, ?_⟩
        rintro ⟨between, after, split, divided, divided'⟩
        obtain ⟨between, rfl, rest⟩ := later_of_not_beginsHere other split divided divided'
        exact ⟨between, after, rest, by simpa using divided, by simpa using divided'⟩

omit [BEq α] [LawfulBEq α] in
/-- A word stands first in one place only. -/
theorem FirstAt.unique {before text between between' after after' : List α}
    (at1 : FirstAt divides word before text between after)
    (at2 : FirstAt divides word before text between' after') :
    between = between' ∧ after = after' := by
  have same : between.length = between'.length :=
    Nat.le_antisymm (at1.first _ _ at2.split at2.divided at2.divided')
      (at2.first _ _ at1.split at1.divided at1.divided')
  have split := at1.split.symm.trans at2.split
  rw [List.append_assoc, List.append_assoc] at split
  obtain ⟨rfl, rest⟩ := List.append_inj split same
  exact ⟨rfl, List.append_cancel_left rest⟩

theorem firstAt_of_beginsHere {before text : List α}
    (begins : beginsHere divides word before text) :
    FirstAt divides word before text [] (text.drop word.length) := by
  obtain ⟨after, rfl, divided, divided'⟩ := beginsHere_iff.1 begins
  rw [List.drop_left]
  exact ⟨rfl, by simpa using divided, by simpa using divided', fun _ _ _ _ _ => Nat.zero_le _⟩

/-- Where the word does not begin here, it stands first one further on. -/
theorem FirstAt.cons {before xs between after : List α} {x : α}
    (other : ¬ beginsHere divides word before (x :: xs))
    (here : FirstAt divides word (before ++ [x]) xs between after) :
    FirstAt divides word before (x :: xs) (x :: between) after where
  split := by rw [here.split]; rfl
  divided := by simpa using here.divided
  divided' := by simpa using here.divided'
  first earlier later split divided divided' := by
    obtain ⟨earlier, rfl, rest⟩ := later_of_not_beginsHere other split divided divided'
    apply Nat.succ_le_succ
    exact here.first earlier later rest (by simpa using divided) (by simpa using divided')

theorem firstAt_of_removeFirst {before text rest : List α}
    (removed : removeFirst divides word before text = some rest) :
    ∃ between after, FirstAt divides word before text between after ∧
      rest = before ++ between ++ after := by
  induction text generalizing before with
  | nil =>
      unfold removeFirst at removed
      split at removed
      · rename_i begins
        obtain rfl := Option.some.inj removed
        exact ⟨[], _, firstAt_of_beginsHere begins, by simp⟩
      · cases removed
  | cons x xs ih =>
      unfold removeFirst at removed
      split at removed
      · rename_i begins
        obtain rfl := Option.some.inj removed
        exact ⟨[], _, firstAt_of_beginsHere begins, by simp⟩
      · rename_i other
        obtain ⟨between, after, here, rfl⟩ := ih removed
        exact ⟨x :: between, after, here.cons other, by simp⟩

/-- What is taken out is the first occurrence. -/
theorem removeFirst_eq_some {before text rest : List α} :
    removeFirst divides word before text = some rest ↔
      ∃ between after, FirstAt divides word before text between after ∧
        rest = before ++ between ++ after := by
  constructor
  · exact firstAt_of_removeFirst
  · rintro ⟨between, after, here, rfl⟩
    have occurs : OccursAfter divides word before text :=
      ⟨between, after, here.split, here.divided, here.divided'⟩
    obtain ⟨rest, removed⟩ := Option.isSome_iff_exists.1 (removeFirst_isSome_iff.2 occurs)
    obtain ⟨between', after', there, rfl⟩ := firstAt_of_removeFirst removed
    obtain ⟨rfl, rfl⟩ := here.unique there
    exact removed

end MindTheGap.Theory
