/-
# Extensions.RemoveDuplicates -- what `removeDuplicates` keeps

The loop appends a value to its result unless the result already contains it.  Whatever
has been processed so far, the result is that prefix with only the first of its equal
elements (`keepsFirst_appendNew`, one value; `keepsFirst_foldl`, the loop from any point
on).  `==` is only taken to be an equivalence, as `Equatable` asks.

Started with a result of its own, the loop appends what a fresh loop would list and the
result does not contain yet (`foldl_appendNew`).
-/
import MindTheGap.Model.Records
import MindTheGap.Theory.KeepsFirst

namespace MindTheGap

open Theory (KeepsFirst)

set_option autoImplicit false

section Equatable

variable {α : Type} [BEq α] [EquivBEq α]

/-! ## The loop -/

theorem keepsFirst_appendNew {xs result : List α} (keeps : KeepsFirst xs result) (value : α) :
    KeepsFirst (xs ++ [value]) (appendNew result value) := by
  unfold appendNew
  split
  · rename_i new
    exact keeps.new ((keeps.contains value).symm.trans new)
  · rename_i old
    apply keeps.known
    rw [← keeps.contains]
    exact Bool.not_eq_false _ ▸ old

theorem keepsFirst_foldl {xs result : List α} (keeps : KeepsFirst xs result) (ys : List α) :
    KeepsFirst (xs ++ ys) (ys.foldl appendNew result) := by
  induction ys generalizing xs result with
  | nil => simpa using keeps
  | cons value ys ih => simpa using ih (keepsFirst_appendNew keeps value)

theorem keepsFirst_removeDuplicates (xs : List α) : KeepsFirst xs (removeDuplicates xs) :=
  keepsFirst_foldl .nil xs

/-- The result is the only list that keeps exactly the first occurrences. -/
theorem removeDuplicates_eq_iff {xs ys : List α} :
    removeDuplicates xs = ys ↔ KeepsFirst xs ys := by
  constructor
  · rintro rfl
    exact keepsFirst_removeDuplicates xs
  · exact (keepsFirst_removeDuplicates xs).unique

theorem contains_removeDuplicates (xs : List α) (x : α) :
    (removeDuplicates xs).contains x = xs.contains x :=
  (keepsFirst_removeDuplicates xs).contains x

theorem nodup_removeDuplicates {β : Type} [BEq β] [LawfulBEq β] (xs : List β) :
    (removeDuplicates xs).Nodup :=
  (keepsFirst_removeDuplicates xs).distinct.imp fun differ => beq_eq_false_iff_ne.1 differ

/-! ## Again, and one array after the other -/

theorem removeDuplicates_self (xs : List α) :
    removeDuplicates (removeDuplicates xs) = removeDuplicates xs :=
  removeDuplicates_eq_iff.2 (.self (keepsFirst_removeDuplicates xs).distinct)

omit [EquivBEq α] in
theorem removeDuplicates_concat (xs : List α) (x : α) :
    removeDuplicates (xs ++ [x]) = appendNew (removeDuplicates xs) x := by
  rw [removeDuplicates, List.foldl_append, List.foldl_cons, List.foldl_nil, ← removeDuplicates]

omit [EquivBEq α] in
/-- Values that are as different as what they are made of lose the same ones. -/
theorem removeDuplicates_map {β : Type} [BEq β] {f : α → β}
    (respects : ∀ a b, (f a == f b) = (a == b)) (xs : List α) :
    removeDuplicates (xs.map f) = (removeDuplicates xs).map f := by
  induction xs using List.reverseRecOn with
  | nil => rfl
  | append_singleton xs x ih =>
      have same : ((removeDuplicates xs).map f).contains (f x) =
          (removeDuplicates xs).contains x := by
        rw [List.contains_map, List.contains_eq_any_beq]
        exact List.any_congr rfl fun a => respects x a
      rw [List.map_append, List.map_singleton, removeDuplicates_concat, removeDuplicates_concat,
        ih, appendNew, appendNew, same, apply_ite (List.map f), List.map_append,
        List.map_singleton]

/-- A result and what it does not contain of `ys` contain together what either does. -/
theorem contains_append_filter (result ys : List α) (x : α) :
    (result ++ ys.filter fun y => !result.contains y).contains x =
      (result.contains x || ys.contains x) := by
  rw [List.contains_append, List.contains_filter]
  cases held : result.contains x with
  | true => rfl
  | false =>
      rw [Bool.false_or, Bool.false_or, List.contains_eq_any_beq]
      apply List.any_congr rfl
      intro y
      cases same : x == y with
      | false => rfl
      | true => rw [← List.contains_congr same, held]; rfl

/-- The loop from any result on. -/
theorem foldl_appendNew (result ys : List α) :
    ys.foldl appendNew result =
      result ++ (removeDuplicates ys).filter fun y => !result.contains y := by
  induction ys using List.reverseRecOn with
  | nil => simp [removeDuplicates]
  | append_singleton ys y ih =>
      rw [List.foldl_append, List.foldl_cons, List.foldl_nil, ih, removeDuplicates_concat]
      unfold appendNew
      rw [contains_append_filter]
      cases held : result.contains y with
      | true =>
          -- the value is in the result already, whether or not it is new among `ys`
          show result ++ _ = _
          split
          · simp [held]
          · rfl
      | false =>
          cases listed : (removeDuplicates ys).contains y with
          | true => rfl
          | false => simp [held]

theorem removeDuplicates_append (xs ys : List α) :
    removeDuplicates (xs ++ ys) =
      removeDuplicates xs ++ (removeDuplicates ys).filter fun y => !xs.contains y := by
  rw [removeDuplicates, List.foldl_append, ← removeDuplicates, foldl_appendNew]
  simp only [contains_removeDuplicates]

/-- Exactly the first occurrences are kept, once more changes nothing, and a second array
adds what it has that the first has not. -/
theorem removeDuplicates_exact (xs ys : List α) :
    KeepsFirst xs (removeDuplicates xs) ∧
      removeDuplicates (removeDuplicates xs) = removeDuplicates xs ∧
      removeDuplicates (xs ++ ys) =
        removeDuplicates xs ++ (removeDuplicates ys).filter fun y => !xs.contains y :=
  ⟨keepsFirst_removeDuplicates xs, removeDuplicates_self xs, removeDuplicates_append xs ys⟩

end Equatable

/-- The array of a station whose platforms alternate. -/
theorem removeDuplicates_exact_platforms :
    let xs : List TubeDirection := [⟨some "Northbound"⟩, ⟨none⟩, ⟨some "Northbound"⟩]
    let ys : List TubeDirection := [⟨some "Southbound"⟩, ⟨none⟩]
    KeepsFirst xs (removeDuplicates xs) ∧
      removeDuplicates (removeDuplicates xs) = removeDuplicates xs ∧
      removeDuplicates (xs ++ ys) =
        removeDuplicates xs ++ (removeDuplicates ys).filter fun y => !xs.contains y :=
  removeDuplicates_exact _ _

end MindTheGap
