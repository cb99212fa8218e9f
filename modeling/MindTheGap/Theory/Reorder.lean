/-
# Theory.Reorder -- one entry of a list moved to another place

A reorder removes the entry at `source` and inserts it at `destination`, a place in
the list that is left.  `origin` says which entry stands where afterwards, and the
laws follow from it: the entry arrives, the entries between the two places shift by
one towards `source`, the others stay (`Moved`), two lists moved alike keep their
entries together (`zip_move`), and the move back undoes it (`move_back`).
-/
import Mathlib.Data.List.InsertIdx
import Mathlib.Data.List.Perm.Basic

namespace MindTheGap.Theory

set_option autoImplicit false

universe u v

namespace Reorder

variable {α : Type u} {β : Type v} {source destination : Nat} {xs : List α} {x : α}

/-- The entry `x` at `source` is taken out and put in at `destination`. -/
def move (xs : List α) (source destination : Nat) (x : α) : List α :=
  (xs.eraseIdx source).insertIdx destination x

/-- The former place of the entry that stands at `i` after a move. -/
def origin (source destination i : Nat) : Nat :=
  if i = destination then source
  else if source ≤ i ∧ i < destination then i + 1
  else if destination < i ∧ i ≤ source then i - 1
  else i

theorem length_move (found : xs[source]? = some x) (inside : destination < xs.length) :
    (move xs source destination x).length = xs.length := by
  have here := (List.getElem?_eq_some_iff.1 found).1
  have shorter := List.length_eraseIdx_of_lt here
  rw [move, List.length_insertIdx_of_le_length (by omega)]
  omega

/-- A move loses nothing and adds nothing. -/
theorem move_perm (found : xs[source]? = some x) (inside : destination < xs.length) :
    (move xs source destination x).Perm xs := by
  obtain ⟨here, rfl⟩ := List.getElem?_eq_some_iff.1 found
  have shorter := List.length_eraseIdx_of_lt here
  have inserted : (move xs source destination xs[source]).Perm (xs[source] :: xs.eraseIdx source) :=
    List.perm_insertIdx xs[source] (xs.eraseIdx source) (by omega)
  exact inserted.trans (List.getElem_cons_eraseIdx_perm here)

/-- Where a key occurs once, removing its entry is the same as filtering it out. -/
theorem eraseIdx_eq_filter {β : Type v} [DecidableEq β] {key : α → β} {i : Nat}
    (once : (xs.map key).Nodup) (found : xs[i]? = some x) :
    xs.eraseIdx i = xs.filter fun y => key y ≠ key x := by
  induction xs generalizing i with
  | nil => cases found
  | cons y ys ih =>
      rw [List.map_cons, List.nodup_cons] at once
      cases i with
      | zero =>
          have first : y = x := Option.some.inj found
          subst first
          have others : ∀ z ∈ ys, decide (key z ≠ key y) = true := by
            intro z member
            have another : key z ≠ key y := fun same =>
              once.1 (same ▸ List.mem_map_of_mem member)
            exact decide_eq_true another
          rw [List.eraseIdx_cons_zero, List.filter_cons, List.filter_eq_self.2 others]
          simp
      | succ i =>
          have another : key y ≠ key x := fun same =>
            once.1 (same ▸ List.mem_map_of_mem (List.mem_of_getElem? found))
          rw [List.eraseIdx_cons_succ, ih once.2 found, List.filter_cons]
          simp [another]

/-- **Where every entry comes from.** -/
theorem getElem?_move (found : xs[source]? = some x) (inside : destination < xs.length) (i : Nat) :
    (move xs source destination x)[i]? = xs[origin source destination i]? := by
  have here := (List.getElem?_eq_some_iff.1 found).1
  have shorter := List.length_eraseIdx_of_lt here
  unfold move origin
  rw [List.getElem?_insertIdx]
  rcases Nat.lt_trichotomy i destination with before | rfl | after
  · rw [if_pos before, if_neg (by omega), List.getElem?_eraseIdx]
    by_cases shifted : source ≤ i
    · rw [if_neg (by omega), if_pos ⟨shifted, before⟩]
    · rw [if_pos (by omega), if_neg (by omega), if_neg (by omega)]
  · have fits : i ≤ (xs.eraseIdx source).length := by omega
    simp [found, fits]
  · rw [if_neg (by omega), if_neg (by omega), if_neg (by omega), if_neg (by omega),
      List.getElem?_eraseIdx]
    by_cases shifted : i ≤ source
    · rw [if_pos (by omega), if_pos ⟨after, shifted⟩]
    · have index : i - 1 + 1 = i := by omega
      rw [if_neg (by omega), if_neg (by omega), index]

/-- `ys` is `xs` with the entry at `source` moved to `destination`. -/
structure Moved (source destination : Nat) (xs ys : List α) : Prop where
  perm : ys.Perm xs
  arrives : ys[destination]? = xs[source]?
  /-- The others stand in their former order. -/
  others : ys.eraseIdx destination = xs.eraseIdx source
  down : ∀ i, source < i → i ≤ destination → ys[i - 1]? = xs[i]?
  up : ∀ i, destination ≤ i → i < source → ys[i + 1]? = xs[i]?
  beyond : ∀ i, (i < source ∧ i < destination) ∨ (source < i ∧ destination < i) → ys[i]? = xs[i]?

theorem moved_move (found : xs[source]? = some x) (inside : destination < xs.length) :
    Moved source destination xs (move xs source destination x) := by
  have places := getElem?_move found inside
  refine ⟨move_perm found inside, ?_, ?_, ?_, ?_, ?_⟩
  · rw [places, origin, if_pos rfl]
  · exact List.eraseIdx_insertIdx_self x
  · intro i after upTo
    have index : i - 1 + 1 = i := by omega
    rw [places, origin, if_neg (by omega), if_pos (by omega), index]
  · intro i atLeast before
    have index : i + 1 - 1 = i := by omega
    rw [places, origin, if_neg (by omega), if_neg (by omega), if_pos (by omega), index]
  · intro i away
    rw [places, origin, if_neg (by omega), if_neg (by omega), if_neg (by omega)]

/-- Two lists of one length, moved alike, keep their entries together. -/
theorem zip_move {ys : List β} {y : β} (same : xs.length = ys.length)
    (found : xs[source]? = some x) (found' : ys[source]? = some y)
    (inside : destination < xs.length) :
    (move xs source destination x).zip (move ys source destination y) =
      move (xs.zip ys) source destination (x, y) := by
  have pair : (xs.zip ys)[source]? = some (x, y) := List.getElem?_zip_eq_some.2 ⟨found, found'⟩
  have fits : destination < (xs.zip ys).length := by
    rw [List.length_zip]
    omega
  apply List.ext_getElem?
  intro i
  have inside' : destination < ys.length := by omega
  rw [getElem?_move pair fits]
  simp only [List.zip, List.getElem?_zipWith, getElem?_move found inside,
    getElem?_move found' inside']

/-- **The move back.** -/
theorem move_back (found : xs[source]? = some x) :
    move (move xs source destination x) destination source x = xs := by
  obtain ⟨here, isEntry⟩ := List.getElem?_eq_some_iff.1 found
  rw [move, move, List.eraseIdx_insertIdx_self, ← isEntry]
  exact List.insertIdx_eraseIdx_getElem here

end Reorder

end MindTheGap.Theory
