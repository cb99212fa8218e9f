/-
# Theory.Arrangement -- what an unstable sort returns

A sort that promises nothing about equal keys returns *some* ordered
rearrangement of its input.  `Arrangement r xs ys` is that promise, over any
relation, and the facts here hold of every result the promise allows.
-/
import Mathlib.Data.List.Perm.Basic

namespace MindTheGap.Theory

set_option autoImplicit false

universe u v

/-- `ys` rearranges `xs` so that every entry is `r`-related to all later ones. -/
structure Arrangement {α : Type u} (r : α → α → Prop) (xs ys : List α) : Prop where
  perm : ys.Perm xs
  ordered : ys.Pairwise r

namespace Arrangement

variable {α : Type u} {r : α → α → Prop} {xs ys : List α}

/-- Filtering an arranged list arranges the filtered one. -/
theorem filter (arranged : Arrangement r xs ys) (p : α → Bool) :
    Arrangement r (xs.filter p) (ys.filter p) :=
  ⟨arranged.perm.filter p, arranged.ordered.filter p⟩

/-- Keys that are related when their entries are come out arranged. -/
theorem filterMap {β : Type v} {le : β → β → Prop} (arranged : Arrangement r xs ys)
    (key : α → Option β) (keeps : ∀ a b, r a b → ∀ x ∈ key a, ∀ y ∈ key b, le x y) :
    Arrangement le (xs.filterMap key) (ys.filterMap key) :=
  ⟨arranged.perm.filterMap key, arranged.ordered.filterMap key keeps⟩

/-- Under an antisymmetric relation there is one arrangement, whatever order the input
came in. -/
theorem unique {xs' ys' : List α} (antisymm : ∀ a b, r a b → r b a → a = b)
    (arranged : Arrangement r xs ys) (arranged' : Arrangement r xs' ys') (same : xs.Perm xs') :
    ys = ys' := by
  apply List.Perm.eq_of_pairwise (fun a b _ _ => antisymm a b) arranged.ordered arranged'.ordered
  exact (arranged.perm.trans same).trans arranged'.perm.symm

theorem mem_iff (arranged : Arrangement r xs ys) (x : α) : x ∈ ys ↔ x ∈ xs :=
  arranged.perm.mem_iff

theorem length_eq (arranged : Arrangement r xs ys) : ys.length = xs.length :=
  arranged.perm.length_eq

/-- Two positions of an arranged list, in order, hold related entries. -/
theorem related (arranged : Arrangement r xs ys) {i j : Nat} (before : i < j) {x y : α}
    (left : ys[i]? = some x) (right : ys[j]? = some y) : r x y := by
  obtain ⟨iLt, rfl⟩ := List.getElem?_eq_some_iff.1 left
  obtain ⟨jLt, rfl⟩ := List.getElem?_eq_some_iff.1 right
  exact List.pairwise_iff_getElem.1 arranged.ordered i j iLt jLt before

end Arrangement

end MindTheGap.Theory
