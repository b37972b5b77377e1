import RunnerRelease.Json.Basic
import RunnerRelease.Text.Decimal

/-!
# JSON texts, as written

What a JSON text spells before it is given a meaning: members in the order of the
text and as often as they are repeated, numbers by their digits.

## Implementation notes

A spelling may be well formed and still denote nothing: a string with half of a
surrogate pair, or a number beyond the floating-point range. Readers skip such a
spelling where they do not need its value and refuse it where they do, so it is
kept in the tree. A record is read from an object by the names of its fields, each
given at most once, or from an array by their positions.
-/

namespace RunnerRelease

/-- A number by its spelling. -/
structure Numeral where
  negative : Bool
  whole : List Char
  fraction : List Char
  exponent : Option Int
deriving DecidableEq

namespace Numeral

/-- The longest value of leading digits that fits 64 bits, and the digits after them. -/
def leadingValue : Nat → List Char → Nat × List Char
  | value, [] => (value, [])
  | value, c :: rest =>
    let next := value * 10 + (c.toNat - 48)
    if next < UInt64.size then leadingValue next rest else (value, c :: rest)

/-- The floating-point number that the digits spell. -/
def floating? (n : Numeral) : Option Number :=
  let (digits, dropped) := leadingValue 0 n.whole
  let (digits, unused) := leadingValue digits n.fraction
  let kept : Int := n.fraction.length - unused.length
  let exponent := dropped.length - kept + n.exponent.getD 0
  (Binary64.ofDecimal? digits exponent).map (.floating n.negative)

/-- The number that the digits spell, unless it is out of range. -/
def value? (n : Numeral) : Option Number :=
  if n.fraction.isEmpty && n.exponent.isNone then
    match Text.readDigits 0 n.whole with
    | none => none
    | some m =>
      if !n.negative && m < UInt64.size then some (.integer m)
      else if n.negative && 0 < m && Text.int64Low ≤ -(m : Int) then some (.integer (-(m : Int)))
      else n.floating?
  else n.floating?

end Numeral

/-- A JSON text by its spelling. -/
inductive Document where
  | null
  | bool (value : Bool)
  | number (numeral : Numeral)
  /-- The characters of a string, absent when they do not make up a text. -/
  | string (value : Option String)
  | array (items : List Document)
  | object (members : List (Option String × Document))

namespace Document

instance : Inhabited Document := ⟨.null⟩

mutual

/-- The value that the text denotes, objects in key order, the last of repeated members kept. -/
def toJson? : Document → Option Json
  | .null => some .null
  | .bool value => some (.bool value)
  | .number numeral => numeral.value?.map .number
  | .string value => value.map .string
  | .array items => (itemsToJson? items).map .array
  | .object ms => (membersToJson? ms).map fun ms => .object (Members.ofList ms)

/-- The values of the items of an array. -/
def itemsToJson? : List Document → Option (List Json)
  | [] => some []
  | d :: rest => (toJson? d).bind fun v => (itemsToJson? rest).map (v :: ·)

/-- The values of the members of an object. -/
def membersToJson? : List (Option String × Document) → Option (List (String × Json))
  | [] => some []
  | (k, d) :: rest =>
    k.bind fun k => (toJson? d).bind fun v => (membersToJson? rest).map ((k, v) :: ·)

end

/-- The whole number that is spelled, if it lies within the bounds. -/
def int? (low high : Int) : Document → Option Int
  | .number numeral =>
    match numeral.value? with
    | some (.integer n) => if low ≤ n ∧ n ≤ high then some n else none
    | _ => none
  | _ => none

/-- The signed whole number of 64 bits that is spelled. -/
def int64? : Document → Option Int := int? Text.int64Low Text.int64High

/-- The unsigned whole number of 64 bits that is spelled. -/
def word64? (d : Document) : Option UInt64 :=
  (d.int? 0 (UInt64.size - 1)).map fun n => UInt64.ofNat n.toNat

/-- The text of a string. -/
def string? : Document → Option String
  | .string value => value
  | _ => none

/-- The truth value that is spelled. -/
def bool? : Document → Option Bool
  | .bool value => some value
  | _ => none

/-- The items of an array. -/
def items? : Document → Option (List Document)
  | .array items => some items
  | _ => none

/-- The members of an object whose keys are all texts. -/
def members? : Document → Option (List (String × Document))
  | .object ms => ms.mapM fun m => m.1.map fun k => (k, m.2)
  | _ => none

/-- What is given under a name that must not be given twice. -/
def given (ms : List (String × Document)) (name : String) : Option (Option Document) :=
  match ms.filter fun m => m.1 == name with
  | [] => some none
  | [m] => some (some m.2)
  | _ => none

/-- What is given for each of the named fields; other members are passed over. -/
def fields? (names : List String) (d : Document) : Option (List (Option Document)) :=
  d.members?.bind fun ms => names.mapM (given ms)

/-- What is given for each field of a record, by name or by position. -/
def record? (names : List String) : Document → Option (List (Option Document))
  | .array items =>
    if items.length ≤ names.length then
      some (items.map some ++ List.replicate (names.length - items.length) none)
    else none
  | d => d.fields? names

/-- Null and what is not given are the same for an optional field. -/
def present : Option Document → Option Document
  | some .null => none
  | d => d

/-- Reads an optional field, refusing it when it is given and cannot be read. -/
def optional {α : Type} (read : Document → Option α) (field : Option Document) :
    Option (Option α) :=
  match present field with
  | none => some none
  | some d => (read d).map some

end Document

end RunnerRelease
