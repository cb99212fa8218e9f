/-
# Model.Firestore -- the stored documents, and how they are written and read

A saved stop is the document `saved-stops/{uid}/saved-stops/{documentID}`, and its
times are the one document `times/arrival-times` below it; `DocRef` names both.
`Firestore` is this client's view of the two kinds of document, `none` where there
is no document.

Writes go through `setData(_, merge: true)` only (`setDataMerge`).  Reads are the
source's `data["key"] as? String` and `as? Int`, which give `nil` for an absent
field and for a field of another type.  The field names of the times document are
made from a slot number, `"0"`, `"0 destination"`, `"0 direction"`, so the facts
about which of them can coincide are proved here once.
-/
import Mathlib.Logic.Function.Basic
import MindTheGap.Theory.MergeDoc
import MindTheGap.Model.Records

namespace MindTheGap

open MindTheGap.Theory

set_option autoImplicit false

/-- A field value: what the app writes, plus the null it writes for `nil`. -/
inductive Value where
  | int (n : Int)
  | string (s : String)
  | null
deriving DecidableEq, Repr

/-- `value as? Int`. -/
def Value.asInt : Value → Option Int
  | .int n => some n
  | _ => none

/-- `value as? String`. -/
def Value.asString : Value → Option String
  | .string s => some s
  | _ => none

/-- A `String?` in a dictionary that is written: `nil` is stored as null. -/
def Value.ofOptional : Option String → Value
  | some s => .string s
  | none => .null

@[simp] theorem Value.asString_string (s : String) : (Value.string s).asString = some s := rfl

@[simp] theorem Value.asString_ofOptional (s : Option String) :
    (Value.ofOptional s).asString = s := by
  cases s <;> rfl

/-- The fields of a document. -/
abbrev Fields := Doc String Value

/-- A dictionary handed to `setData`. -/
abbrev Data := List (String × Value)

/-- `data?[key] as? Int`. -/
def readInt (data : Option Fields) (key : String) : Option Int :=
  (data.bind fun fields => fields key).bind Value.asInt

/-- `data?[key] as? String`. -/
def readString (data : Option Fields) (key : String) : Option String :=
  (data.bind fun fields => fields key).bind Value.asString

/-- `ref.setData(data, merge: true)`: creates the document if there is none. -/
def setDataMerge (document : Option Fields) (data : Data) : Option Fields :=
  some ((document.getD Doc.empty).merge data)

/-- Several `setData` calls on one document, in the order they are issued. -/
def setDataAll (document : Option Fields) (writes : List Data) : Option Fields :=
  writes.foldl setDataMerge document

theorem setDataAll_field (document : Option Fields) (writes : List Data) (key : String) :
    ((setDataAll document writes).bind fun fields => fields key) =
      (document.getD Doc.empty).mergeAll writes key := by
  induction writes generalizing document with
  | nil => cases document <;> rfl
  | cons data writes ih =>
      rw [setDataAll, List.foldl_cons]
      exact ih (setDataMerge document data)

theorem readInt_setDataAll (document : Option Fields) (writes : List Data) (key : String) :
    readInt (setDataAll document writes) key =
      ((document.getD Doc.empty).mergeAll writes key).bind Value.asInt := by
  rw [readInt, setDataAll_field]

theorem readString_setDataAll (document : Option Fields) (writes : List Data) (key : String) :
    readString (setDataAll document writes) key =
      ((document.getD Doc.empty).mergeAll writes key).bind Value.asString := by
  rw [readString, setDataAll_field]

theorem readInt_eq (document : Option Fields) (key : String) :
    readInt document key = ((document.getD Doc.empty) key).bind Value.asInt := by
  cases document <;> rfl

theorem readString_eq (document : Option Fields) (key : String) :
    readString document key = ((document.getD Doc.empty) key).bind Value.asString := by
  cases document <;> rfl

/-- At least one write leaves a document behind. -/
theorem setDataAll_isSome {writes : List Data} (some_write : writes ≠ [])
    (document : Option Fields) : (setDataAll document writes).isSome := by
  obtain ⟨data, rest, rfl⟩ := List.exists_cons_of_ne_nil some_write
  clear some_write
  induction rest generalizing document data with
  | nil => rfl
  | cons next rest ih => exact ih (setDataMerge document data) next

/-! ## The field names of a times document -/

/-- `"\(count)"`. -/
def slotKey (count : Nat) : String := toString count

/-- `"\(count) destination"`. -/
def destinationKey (count : Nat) : String := toString count ++ " destination"

/-- `"\(count) direction"`. -/
def directionKey (count : Nat) : String := toString count ++ " direction"

theorem toString_injective {m n : Nat} (same : toString m = toString n) : m = n := by
  have digits : Nat.toDigits 10 m = Nat.toDigits 10 n := by
    simpa only [Nat.toString_eq_repr, Nat.toList_repr] using congrArg String.toList same
  simpa using congrArg (fun digits => Nat.ofDigitChars 10 digits 0) digits

/-- A slot number has no blank in it, so it is no other field's name. -/
theorem toString_ne_blank (n : Nat) (stem rest : String) (blank : ' ' ∈ rest.toList) :
    toString n ≠ stem ++ rest := by
  intro same
  have inside : ' ' ∈ Nat.toDigits 10 n := by
    have chars := congrArg String.toList same
    rw [Nat.toString_eq_repr, Nat.toList_repr, String.toList_append] at chars
    rw [chars]
    exact List.mem_append_right _ blank
  exact absurd (Nat.isDigit_of_mem_toDigits (by decide) (by decide) inside) (by decide)

@[simp] theorem slotKey_inj {i j : Nat} : slotKey i = slotKey j ↔ i = j :=
  ⟨toString_injective, congrArg slotKey⟩

@[simp] theorem destinationKey_inj {i j : Nat} : destinationKey i = destinationKey j ↔ i = j := by
  refine ⟨fun same => ?_, congrArg destinationKey⟩
  have chars := congrArg String.toList same
  simp only [destinationKey, String.toList_append, List.append_cancel_right_eq] at chars
  exact toString_injective (String.toList_inj.1 chars)

@[simp] theorem slotKey_ne_destinationKey (i j : Nat) : slotKey i ≠ destinationKey j :=
  toString_ne_blank i _ _ (by decide)

@[simp] theorem slotKey_ne_directionKey (i j : Nat) : slotKey i ≠ directionKey j :=
  toString_ne_blank i _ _ (by decide)

@[simp] theorem destinationKey_ne_slotKey (i j : Nat) : destinationKey i ≠ slotKey j :=
  (slotKey_ne_destinationKey j i).symm

@[simp] theorem destinationKey_ne_directionKey (i j : Nat) :
    destinationKey i ≠ directionKey j := by
  intro same
  have backwards := congrArg (fun s => s.toList.reverse) same
  simp [destinationKey, directionKey] at backwards

/-! ## References, snapshots and the store -/

/-- A saved stop of a user, and the times document below it. -/
structure DocRef where
  uid : String
  documentID : String
deriving DecidableEq, Repr

/-- One document of a delivered `saved-stops` collection. -/
structure QueryDocument where
  documentID : String
  data : Fields

/-- A delivered times document; `data` is `nil` when it does not exist. -/
structure DocumentSnapshot where
  ref : DocRef
  data : Option Fields

/-- What a snapshot listener is called with. -/
inductive Delivery (α : Type) where
  | failed
  | snapshot (contents : α)

/-- The documents this client sees. -/
structure Firestore where
  savedStops : DocRef → Option Fields
  arrivalTimes : DocRef → Option Fields

namespace Firestore

def empty : Firestore := ⟨fun _ => none, fun _ => none⟩

/-- Merge writes to the times document of one stop. -/
def setArrivalTimes (store : Firestore) (ref : DocRef) (writes : List Data) : Firestore :=
  { store with arrivalTimes :=
      Function.update store.arrivalTimes ref (setDataAll (store.arrivalTimes ref) writes) }

/-- A merge write to a saved stop. -/
def setStop (store : Firestore) (ref : DocRef) (data : Data) : Firestore :=
  { store with savedStops :=
      Function.update store.savedStops ref (setDataMerge (store.savedStops ref) data) }

/-- `ref.delete()` on a saved stop. -/
def deleteStop (store : Firestore) (ref : DocRef) : Firestore :=
  { store with savedStops := Function.update store.savedStops ref none }

/-- `timeref.delete()`. -/
def deleteArrivalTimes (store : Firestore) (ref : DocRef) : Firestore :=
  { store with arrivalTimes := Function.update store.arrivalTimes ref none }

/-- A merge write to a stop that is not there makes it. -/
theorem setStop_new {store : Firestore} {ref : DocRef} (absent : store.savedStops ref = none)
    (data : Data) : (store.setStop ref data).savedStops ref = some (Doc.empty.merge data) := by
  have written : (store.setStop ref data).savedStops ref =
      setDataMerge (store.savedStops ref) data := Function.update_self _ _ _
  rw [written, absent]
  rfl

end Firestore

/-! ## The two readers -/

/-- The variables bound by the five guards of `getSavedStops`, and the document's name. -/
structure SavedStop where
  line : String
  lineLowerCase : String
  direction : String
  naptan : String
  stationName : String
  documentID : String
deriving DecidableEq, Repr

/-- The five guards of `getSavedStops`, in their order. -/
def QueryDocument.decode (document : QueryDocument) : Option SavedStop := do
  let line ← readString (some document.data) "line"
  let lineLowerCase ← readString (some document.data) "lowercaseline"
  let direction ← readString (some document.data) "direction"
  let naptan ← readString (some document.data) "naptanID"
  let stationName ← readString (some document.data) "stationName"
  return ⟨line, lineLowerCase, direction, naptan, stationName, document.documentID⟩

/-- The `tableArray` made of them. -/
def SavedStop.row (stop : SavedStop) : TableArray where
  lineName := some stop.line
  lineid := some stop.lineLowerCase
  directionName := some stop.direction
  naptanID := some stop.naptan
  stationName := some stop.stationName
  documentID := some stop.documentID

theorem QueryDocument.decode_eq_some {document : QueryDocument} {stop : SavedStop} :
    document.decode = some stop ↔
      readString (some document.data) "line" = some stop.line ∧
      readString (some document.data) "lowercaseline" = some stop.lineLowerCase ∧
      readString (some document.data) "direction" = some stop.direction ∧
      readString (some document.data) "naptanID" = some stop.naptan ∧
      readString (some document.data) "stationName" = some stop.stationName ∧
      stop.documentID = document.documentID := by
  simp only [decode, Option.bind_eq_bind, Option.bind_eq_some_iff, Option.pure_def,
    Option.some.injEq]
  constructor
  · rintro ⟨line, h₁, lower, h₂, direction, h₃, naptan, h₄, station, h₅, rfl⟩
    exact ⟨h₁, h₂, h₃, h₄, h₅, rfl⟩
  · rintro ⟨h₁, h₂, h₃, h₄, h₅, named⟩
    exact ⟨_, h₁, _, h₂, _, h₃, _, h₄, _, h₅, by rw [← named]⟩

theorem QueryDocument.decode_documentID {document : QueryDocument} {stop : SavedStop}
    (decoded : document.decode = some stop) : stop.documentID = document.documentID :=
  (QueryDocument.decode_eq_some.1 decoded).2.2.2.2.2

/-- The `TimeDestination` the listener of `getTimes` builds. -/
def readTimes (data : Option Fields) : TimeDestination where
  time1 := readInt data "0"
  time2 := readInt data "1"
  time3 := readInt data "2"
  destination1 := readString data "0 destination"
  destination2 := readString data "1 destination"
  destination3 := readString data "2 destination"

/-- The listener reads slot `i` under the names the polls write it under. -/
theorem readTimes_slot (data : Option Fields) {i : Nat} (slot : i < 3) :
    (readTimes data).time i = readInt data (slotKey i) ∧
      (readTimes data).destination i = readString data (destinationKey i) := by
  match i, slot with
  | 0, _ => exact ⟨rfl, rfl⟩
  | 1, _ => exact ⟨rfl, rfl⟩
  | 2, _ => exact ⟨rfl, rfl⟩

end MindTheGap
