/-
# Theory.MergeDoc -- documents changed by merge writes

A document is a partial map from field names to values, and a merge write
replaces the fields it names and keeps every other one.  `mergeAll` is a sequence
of such writes.

A *slotted* sequence writes one record per slot, slot numbers ascending from a
start count, each record naming only the fields of its own slot.  Reading a slot's
field back (`mergeAll_slotted`) gives that slot's record when the sequence was
long enough to reach the slot, and the field's earlier value otherwise: merge
writes never take a field away.  So a document whose slots are filled without a gap
stays `Filled`, up to the longest sequence it has seen.
-/
import Mathlib.Data.List.Basic

namespace MindTheGap.Theory

set_option autoImplicit false

universe u v w

/-- Field names to values; an absent field reads `none`. -/
abbrev Doc (K : Type u) (V : Type v) := K → Option V

namespace Doc

variable {K : Type u} {V : Type v} [BEq K]

def empty : Doc K V := fun _ => none

/-- The fields of `data` replace those of `doc`; all others are kept. -/
def merge (doc : Doc K V) (data : List (K × V)) : Doc K V :=
  fun k => (data.lookup k).or (doc k)

/-- The writes of a list, first write first. -/
def mergeAll (doc : Doc K V) (writes : List (List (K × V))) : Doc K V :=
  writes.foldl merge doc

@[simp] theorem mergeAll_nil (doc : Doc K V) : mergeAll doc [] = doc := rfl

@[simp] theorem mergeAll_cons (doc : Doc K V) (data : List (K × V))
    (writes : List (List (K × V))) :
    mergeAll doc (data :: writes) = mergeAll (merge doc data) writes := rfl

/-- One of the writes has the field. -/
def names (writes : List (List (K × V))) (k : K) : Bool :=
  writes.any fun data => (data.lookup k).isSome

theorem merge_of_lookup {doc : Doc K V} {data : List (K × V)} {k : K} {value : Option V}
    (found : data.lookup k = value) : merge doc data k = value.or (doc k) := by
  rw [merge, found]

section Slots

variable {α : Type w}

/-- One record per element of a list, slots ascending from `count`. -/
def slotted (data : Nat → α → List (K × V)) : Nat → List α → List (List (K × V))
  | _, [] => []
  | count, x :: xs => data count x :: slotted data (count + 1) xs

omit [BEq K] in
theorem length_slotted (data : Nat → α → List (K × V)) (count : Nat) (xs : List α) :
    (slotted data count xs).length = xs.length := by
  induction xs generalizing count with
  | nil => rfl
  | cons x xs ih => simp [slotted, ih]

omit [BEq K] in
theorem getElem?_slotted (data : Nat → α → List (K × V)) (count : Nat) (xs : List α) (i : Nat) :
    (slotted data count xs)[i]? = xs[i]?.map (data (count + i)) := by
  induction xs generalizing count i with
  | nil => simp [slotted]
  | cons x xs ih =>
      cases i with
      | zero => simp [slotted]
      | succ i =>
          have index : count + 1 + i = count + (i + 1) := by omega
          simp [slotted, ih, index]

omit [BEq K] in
/-- The first writes of a slotted sequence are those for the first elements. -/
theorem take_slotted (data : Nat → α → List (K × V)) (count : Nat) (xs : List α) (n : Nat) :
    (slotted data count xs).take n = slotted data count (xs.take n) := by
  induction xs generalizing count n with
  | nil => simp [slotted]
  | cons x xs ih =>
      cases n with
      | zero => rfl
      | succ n => simp [slotted, ih]

/-- A slotted sequence has the fields of the slots it reaches. -/
theorem names_slotted {data : Nat → α → List (K × V)} {key : Nat → K} {value : α → V}
    (own : ∀ i j x, (data j x).lookup (key i) = if i = j then some (value x) else none)
    (count : Nat) (xs : List α) (i : Nat) :
    names (slotted data count xs) (key i) = true ↔ count ≤ i ∧ i < count + xs.length := by
  induction xs generalizing count with
  | nil =>
      simp only [slotted, names, List.any_nil, Bool.false_eq_true, false_iff, List.length_nil]
      omega
  | cons x xs ih =>
      have later := ih (count + 1)
      simp only [names] at later
      simp only [slotted, names, List.any_cons, Bool.or_eq_true, later, own, List.length_cons]
      by_cases same : i = count
      · simp [same]
      · simp only [same, if_false, Option.isSome_none, Bool.false_eq_true, false_or]
        omega

/-- **Reading a slot back.**  When each record holds the field `key i` for its own
slot only, that field is the slot's record's value if the sequence reaches slot
`i`, and what it was before otherwise. -/
theorem mergeAll_slotted {data : Nat → α → List (K × V)} {key : Nat → K} {value : α → V}
    (own : ∀ i j x, (data j x).lookup (key i) = if i = j then some (value x) else none)
    (doc : Doc K V) (count : Nat) (xs : List α) (i : Nat) :
    mergeAll doc (slotted data count xs) (key i) =
      (if count ≤ i then xs[i - count]?.map value else none).or (doc (key i)) := by
  induction xs generalizing doc count with
  | nil => simp [slotted]
  | cons x xs ih =>
      simp only [slotted, mergeAll_cons, ih, merge_of_lookup (own i count x)]
      rcases Nat.lt_trichotomy i count with before | rfl | after
      · have away : ¬ count + 1 ≤ i := by omega
        have outside : ¬ count ≤ i := by omega
        have other : ¬ i = count := by omega
        simp [away, outside, other]
      · have passed : ¬ i + 1 ≤ i := by omega
        simp [passed]
      · have index : i - count = (i - (count + 1)) + 1 := by omega
        have reached : count + 1 ≤ i := by omega
        have inside : count ≤ i := by omega
        have other : ¬ i = count := by omega
        simp [index, reached, inside, other]

omit [BEq K] in
/-- The document holds acceptable values in the slots below `slots` and in no others. -/
def Filled (key : Nat → K) (ok : V → Prop) (slots : Nat) (doc : Doc K V) : Prop :=
  ∀ i, (∃ value, doc (key i) = some value ∧ ok value) ↔ i < slots

/-- A slotted sequence fills the slots it reaches and keeps the others. -/
theorem Filled.mergeAll {data : Nat → α → List (K × V)} {key : Nat → K} {value : α → V}
    {ok : V → Prop} {slots : Nat} {doc : Doc K V} (filled : Filled key ok slots doc)
    (own : ∀ i j x, (data j x).lookup (key i) = if i = j then some (value x) else none)
    (accepted : ∀ x, ok (value x)) (xs : List α) :
    Filled key ok (max slots xs.length) (doc.mergeAll (slotted data 0 xs)) := by
  intro i
  rw [mergeAll_slotted own]
  rcases Nat.lt_or_ge i xs.length with reached | beyond
  · simp only [Nat.zero_le, if_true, Nat.sub_zero, List.getElem?_eq_getElem reached,
      Option.map_some, Option.some_or, Option.some.injEq, exists_eq_left', accepted, true_iff]
    exact Nat.lt_of_lt_of_le reached (Nat.le_max_right slots xs.length)
  · simp only [Nat.zero_le, if_true, Nat.sub_zero, List.getElem?_eq_none beyond,
      Option.map_none, Option.none_or]
    rw [filled i]
    omega

end Slots

end Doc

end MindTheGap.Theory
