/-
# Theory.KeepsFirst -- a list with only the first of its equal elements

`KeepsFirst xs ys` says that `ys` lists the values of `xs`, each once, where it occurs
first.  Elements are compared with `==`, which need only be an equivalence.

A list has one such list (`KeepsFirst.unique`), and it grows with it: by an element that
is new (`KeepsFirst.new`), and not at all by one that is known (`KeepsFirst.known`).
-/
import Mathlib.Data.List.Induction

namespace MindTheGap.Theory

set_option autoImplicit false

universe u

variable {α : Type u} [BEq α]

/-- `ys` is `xs` without the elements that equal an earlier one. -/
structure KeepsFirst (xs ys : List α) : Prop where
  /-- No two elements are equal. -/
  distinct : ys.Pairwise fun a b => (a == b) = false
  /-- The values are those of `xs`. -/
  contains : ∀ x, ys.contains x = xs.contains x
  sublist : ys.Sublist xs
  /-- Each element is the first of `xs` that differs from all before it, and after the
  last one there is none. -/
  first : ∀ k, ys[k]? = xs.find? fun x => !(ys.take k).contains x

namespace KeepsFirst

variable {xs ys zs : List α} {x : α}

theorem nil : KeepsFirst ([] : List α) [] where
  distinct := .nil
  contains _ := rfl
  sublist := .slnil
  first _ := by simp

/-- The list is determined, one element after the other. -/
theorem unique (left : KeepsFirst xs ys) (right : KeepsFirst xs zs) : ys = zs := by
  have prefixes : ∀ k, ys.take k = zs.take k := by
    intro k
    induction k with
    | zero => rfl
    | succ k ih => rw [List.take_add_one, List.take_add_one, left.first, right.first, ih]
  apply List.ext_getElem?
  intro k
  rw [left.first, right.first, prefixes]

/-- The first element stays the first. -/
theorem head (keeps : KeepsFirst xs ys) : ys.head? = xs.head? := by
  rw [List.head?_eq_getElem?, keeps.first]
  cases xs <;> rfl

variable [EquivBEq α]

/-- Nothing of `xs` is left to be listed once all of `ys` has been seen. -/
theorem find_none (keeps : KeepsFirst xs ys) {seen : List α}
    (all : ∀ x, ys.contains x → seen.contains x) :
    (xs.find? fun x => !seen.contains x) = none := by
  apply List.find?_eq_none.2
  intro x inside
  have listed : xs.contains x :=
    List.contains_iff_exists_mem_beq.2 ⟨x, inside, BEq.rfl⟩
  simpa using all x ((keeps.contains x).trans listed)

theorem known (keeps : KeepsFirst xs ys) (old : xs.contains x) : KeepsFirst (xs ++ [x]) ys where
  distinct := keeps.distinct
  contains y := by
    rw [keeps.contains, List.contains_append]
    cases same : y == x with
    | true => simp [List.contains_congr same, old]
    | false => simp [same]
  sublist := keeps.sublist.trans (List.sublist_append_left ..)
  first k := by
    rw [List.find?_append, ← keeps.first]
    cases found : ys[k]? with
    | some y => rfl
    | none =>
        have past : ys.length ≤ k := List.getElem?_eq_none_iff.1 found
        have held : ys.contains x := (keeps.contains x).trans old
        simp [List.take_of_length_le past, held]

theorem new (keeps : KeepsFirst xs ys) (new : xs.contains x = false) :
    KeepsFirst (xs ++ [x]) (ys ++ [x]) where
  distinct := by
    refine List.pairwise_append.2 ⟨keeps.distinct, List.pairwise_singleton .., ?_⟩
    intro a inside b last
    obtain rfl : b = x := List.mem_singleton.1 last
    have absent : ys.contains b = false := (keeps.contains b).trans new
    rw [List.contains_eq_any_beq, List.any_eq_false] at absent
    exact BEq.symm_false (Bool.eq_false_iff.2 (absent a inside))
  contains y := by rw [List.contains_append, keeps.contains, List.contains_append]
  sublist := keeps.sublist.append_right [x]
  first k := by
    have absent : ys.contains x = false := (keeps.contains x).trans new
    rw [List.find?_append]
    rcases Nat.lt_trichotomy k ys.length with inside | rfl | past
    · rw [List.getElem?_append_left inside, List.take_append_of_le_length (by omega),
        ← keeps.first, List.getElem?_eq_getElem inside]
      rfl
    · have none_before : (xs.find? fun y => !ys.contains y) = none :=
        keeps.find_none fun _ => id
      simp [none_before, absent]
    · have whole : (ys ++ [x]).take k = ys ++ [x] :=
        List.take_of_length_le (by rw [List.length_append, List.length_singleton]; omega)
      have none_before : (xs.find? fun y => !(ys ++ [x]).contains y) = none :=
        keeps.find_none fun y inside => by rw [List.contains_append, inside, Bool.true_or]
      have outside : (ys ++ [x])[k]? = none :=
        List.getElem?_eq_none (by rw [List.length_append, List.length_singleton]; omega)
      rw [outside, whole, none_before]
      simp

/-- A list without repetition keeps all its elements. -/
theorem self (distinct : ys.Pairwise fun a b => (a == b) = false) : KeepsFirst ys ys := by
  induction ys using List.reverseRecOn with
  | nil => exact nil
  | append_singleton ys x ih =>
      obtain ⟨before, -, apart⟩ := List.pairwise_append.1 distinct
      apply (ih before).new
      rw [List.contains_eq_any_beq, List.any_eq_false]
      intro y inside
      exact Bool.eq_false_iff.1 (BEq.symm_false (apart y inside x (List.mem_singleton_self x)))

end KeepsFirst

end MindTheGap.Theory
