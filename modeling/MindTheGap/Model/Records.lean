/-
# Model.Records -- the records the app decodes, stores in its tables and shows

From `ExtensionsEnums.swift`.  Every field of the two decoded records is optional
in the source, so a decoded array may have any field of any entry missing.
`Response` is what a `URLSession.dataTask` callback has in hand once it has tried
to decode: no data at all, data that does not decode, or an array.

Swift's `==` on strings is canonical equivalence.  Texts are taken up to it, so that it
is `=` here, for the elements that `removeDuplicates` compares too.
-/
import Mathlib.Data.List.Basic

namespace MindTheGap

set_option autoImplicit false

/-- `struct tubeTimes: Decodable`, one predicted arrival. -/
structure TubeTimes where
  naptanId : Option String := none
  lineId : Option String := none
  stationName : Option String := none
  platformName : Option String := none
  timeToStation : Option Int := none
  lineName : Option String := none
  destinationName : Option String := none
deriving DecidableEq, Repr

/-- `struct tubeDirection: Decodable, Hashable`. -/
structure TubeDirection where
  platformName : Option String := none
deriving DecidableEq, Repr

/-- `struct tableArray`, one row of the home page. -/
structure TableArray where
  lineName : Option String
  lineid : Option String
  directionName : Option String
  naptanID : Option String
  stationName : Option String
  documentID : Option String
deriving DecidableEq, Repr

/-- `struct TimeDestination`, the times shown in one row. -/
structure TimeDestination where
  time1 : Option Int
  time2 : Option Int
  time3 : Option Int
  destination1 : Option String
  destination2 : Option String
  destination3 : Option String
deriving DecidableEq, Repr

namespace TimeDestination

/-- The time of slot `i`; there are three. -/
def time (times : TimeDestination) : Nat → Option Int
  | 0 => times.time1
  | 1 => times.time2
  | 2 => times.time3
  | _ => none

/-- The destination of slot `i`. -/
def destination (times : TimeDestination) : Nat → Option String
  | 0 => times.destination1
  | 1 => times.destination2
  | 2 => times.destination3
  | _ => none

end TimeDestination

/-- What the callback of a data task has after decoding. -/
inductive Response (α : Type) where
  | noData
  | undecodable
  | decoded (records : List α)
deriving DecidableEq, Repr

/-- The array a callback hands on.  Without data it hands on nothing; when decoding
throws, the array is still the empty one it was initialised to. -/
def Response.records {α : Type} : Response α → Option (List α)
  | .noData => none
  | .undecodable => some []
  | .decoded records => some records

section Arrays

variable {α : Type}

/-- `Collection.subscript(optional:)`. -/
def subscriptOptional (xs : List α) (i : Nat) : Option α :=
  if h : i < xs.length then some (xs.get ⟨i, h⟩) else none

@[simp] theorem subscriptOptional_eq (xs : List α) (i : Nat) :
    subscriptOptional xs i = xs[i]? := by
  unfold subscriptOptional
  split
  · rename_i inside; simp [List.getElem?_eq_getElem inside]
  · rename_i outside; simp [List.getElem?_eq_none (by omega : xs.length ≤ i)]

/-- Where no key is repeated, an entry is found by its key. -/
theorem index_unique {κ : Type} {key : α → κ} {xs : List α} (once : (xs.map key).Nodup)
    {i j : Nat} {x y : α} (found : xs[i]? = some x) (found' : xs[j]? = some y)
    (same : key x = key y) : i = j := by
  have inside : i < (xs.map key).length := by
    simpa using (List.getElem?_eq_some_iff.1 found).1
  apply (List.getElem?_inj inside once).1
  simp [found, found', same]

variable [BEq α]

/-- The body of the loop of `removeDuplicates`; `==` is the one of `Equatable`. -/
def appendNew (result : List α) (value : α) : List α :=
  if result.contains value = false then result ++ [value] else result

/-- `Array.removeDuplicates`. -/
def removeDuplicates (xs : List α) : List α :=
  xs.foldl appendNew []

variable [LawfulBEq α]

theorem mem_appendNew (x : α) (result : List α) (value : α) :
    x ∈ appendNew result value ↔ x ∈ result ∨ x = value := by
  unfold appendNew
  split
  · simp
  · rename_i kept
    have known : value ∈ result := by simpa using kept
    constructor
    · exact Or.inl
    · rintro (h | rfl)
      · exact h
      · exact known

theorem mem_foldl_appendNew (x : α) (xs result : List α) :
    x ∈ xs.foldl appendNew result ↔ x ∈ result ∨ x ∈ xs := by
  induction xs generalizing result with
  | nil => simp
  | cons value xs ih => rw [List.foldl_cons, ih, mem_appendNew, List.mem_cons, or_assoc]

/-- Deduplication keeps exactly the values of the array. -/
@[simp] theorem mem_removeDuplicates (x : α) (xs : List α) :
    x ∈ removeDuplicates xs ↔ x ∈ xs := by
  simp [removeDuplicates, mem_foldl_appendNew]

end Arrays

end MindTheGap
