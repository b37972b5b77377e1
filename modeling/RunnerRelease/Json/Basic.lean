import RunnerRelease.Json.Binary64
import RunnerRelease.Members

/-!
# JSON values

The values that JSON texts denote, with the equality under which two texts say the
same.

## Implementation notes

An object is a list of members in key order, so that equal objects are listed
alike; `Canonical` says that this holds throughout a value. Whole numbers within
64 bits and numbers in floating point are different values even where their
amounts agree. A floating-point zero keeps its sign, which equality ignores.
-/

namespace RunnerRelease

/-- A number as a JSON text denotes it. -/
inductive Number where
  /-- A whole number in the range of signed or unsigned 64-bit integers. -/
  | integer (value : Int)
  /-- A number in floating point. -/
  | floating (negative : Bool) (magnitude : Binary64)
deriving DecidableEq

namespace Number

/-- Two numbers are the same when they are of one kind and of equal amount. -/
def same : Number → Number → Bool
  | .integer a, .integer b => a == b
  | .floating s a, .floating t b => a == b && (s == t || a.mantissa == 0)
  | _, _ => false

/-- The text of a number. -/
def render : Number → String
  | .integer value => toString value
  | .floating negative magnitude => (if negative then "-" else "") ++ magnitude.render

end Number

/-- A JSON value. -/
inductive Json where
  | null
  | bool (value : Bool)
  | number (value : Number)
  | string (value : String)
  | array (items : List Json)
  | object (members : List (String × Json))

namespace Json

instance : Inhabited Json := ⟨.null⟩

/-- A whole number as a value. -/
def int (n : Int) : Json := .number (.integer n)

/-- The object of the fields that are present, which are given in key order. -/
def ofFields (fields : List (String × Option Json)) : Json :=
  .object (fields.filterMap fun f => f.2.map fun v => (f.1, v))

/-- The members of an object. -/
def members? : Json → Option (Members Json)
  | .object ms => some ms
  | _ => none

/-- The value that an object binds a key to. -/
def get? (value : Json) (key : String) : Option Json :=
  value.members?.bind fun ms => Members.get? ms key

mutual

/-- Whether two values are the same, with members in the same order. -/
def same : Json → Json → Bool
  | .null, .null => true
  | .bool a, .bool b => a == b
  | .number a, .number b => a.same b
  | .string a, .string b => a == b
  | .array a, .array b => sameItems a b
  | .object a, .object b => sameMembers a b
  | _, _ => false

/-- Whether two lists hold the same values. -/
def sameItems : List Json → List Json → Bool
  | [], [] => true
  | a :: as, b :: bs => same a b && sameItems as bs
  | _, _ => false

/-- Whether two lists hold the same members. -/
def sameMembers : List (String × Json) → List (String × Json) → Bool
  | [], [] => true
  | (j, a) :: as, (k, b) :: bs => j == k && same a b && sameMembers as bs
  | _, _ => false

end

mutual

/-- Every object within the value lists its members in key order. -/
def Canonical : Json → Prop
  | .array items => CanonicalItems items
  | .object ms => Members.Ascending ms ∧ CanonicalMembers ms
  | _ => True

/-- All values of a list are canonical. -/
def CanonicalItems : List Json → Prop
  | [] => True
  | v :: rest => Canonical v ∧ CanonicalItems rest

/-- All values of a member list are canonical. -/
def CanonicalMembers : List (String × Json) → Prop
  | [] => True
  | (_, v) :: rest => Canonical v ∧ CanonicalMembers rest

end

end Json

end RunnerRelease
