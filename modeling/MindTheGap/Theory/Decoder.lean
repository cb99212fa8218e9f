/-
# Theory.Decoder -- keyed values read from parsed JSON

A decoder turns a JSON value into a value of its type or throws (`none`).  Of an object it
reads the members it has keys for and no others; an optional member may be absent or
null, but a member of another type throws even where it is optional.  An array decodes
when every element does: one element that throws takes all the others with it.

How a number is written is the parser's business, so numbers are of any type `ν`.
-/
import Mathlib.Data.List.Forall2

namespace MindTheGap.Theory

set_option autoImplicit false

universe u

/-- A parsed JSON value. -/
inductive Json (ν : Type u) where
  | null
  | bool (b : Bool)
  | number (n : ν)
  | string (s : String)
  | array (elements : List (Json ν))
  | object (members : List (String × Json ν))

namespace Json

variable {ν : Type u} {α β : Type*}

/-- The value as a string. -/
def asString : Json ν → Option String
  | .string s => some s
  | _ => none

/-- The value as an integer; `int` says which numbers are one. -/
def asInt (int : ν → Option Int) : Json ν → Option Int
  | .number n => int n
  | _ => none

/-- `decodeIfPresent`: nothing where the member is absent or null. -/
def decodeIfPresent (read : Json ν → Option α) (members : List (String × Json ν))
    (key : String) : Option (Option α) :=
  match members.lookup key with
  | none => some none
  | some .null => some none
  | some value => (read value).map some

/-- `decode`: the member is required. -/
def decode (read : Json ν → Option α) (members : List (String × Json ν)) (key : String) :
    Option α :=
  (members.lookup key).bind read

/-- A value read by its members. -/
def keyed (read : List (String × Json ν) → Option α) : Json ν → Option α
  | .object members => read members
  | _ => none

/-- An array, each of its elements read alike. -/
def list (read : Json ν → Option α) : Json ν → Option (List α)
  | .array elements => elements.mapM read
  | _ => none

end Json

end MindTheGap.Theory
