/-!
# Decimal numbers in texts

Writing of natural numbers with a least or a fixed number of digits, and reading
of single digits and of whole texts as bounded integers.
-/

namespace RunnerRelease.Text

/-- The value of a decimal digit. -/
def digit? (c : Char) : Option Nat :=
  if '0' ≤ c ∧ c ≤ '9' then some (c.toNat - 48) else none

/-- The digit with the given value below ten. -/
def digitOf (n : Nat) : Char := Char.ofNat (48 + n % 10)

/-- The last digits of a number, as many as the width says. -/
def fixedDigits : Nat → Nat → List Char
  | 0, _ => []
  | width + 1, n => fixedDigits width (n / 10) ++ [digitOf n]

/-- The digits of a number, with zeros in front up to the given width. -/
def paddedDigits (width n : Nat) : List Char :=
  let digits := Nat.toDigits 10 n
  List.replicate (width - digits.length) '0' ++ digits

/-- The value of a text of digits, at least one, read after a value already known. -/
def readDigits : Nat → List Char → Option Nat
  | value, [] => some value
  | value, c :: rest => (digit? c).bind fun d => readDigits (value * 10 + d) rest

/-- The value of a text that consists of one or more digits. -/
def readNat? (cs : List Char) : Option Nat :=
  if cs.isEmpty then none else readDigits 0 cs

/-- Reads digits with an optional plus sign as an unsigned number of 64 bits. -/
def readUInt64? (s : String) : Option UInt64 :=
  let digits := match s.toList with
    | '+' :: rest => rest
    | cs => cs
  (readNat? digits).bind fun n => if n < UInt64.size then some (UInt64.ofNat n) else none

/-- The least signed number of 64 bits. -/
def int64Low : Int := -9223372036854775808

/-- The greatest signed number of 64 bits. -/
def int64High : Int := 9223372036854775807

/-- Reads digits with an optional sign as a signed number of 64 bits. -/
def readInt64? (s : String) : Option Int :=
  let value : Option Int := match s.toList with
    | '+' :: rest => (readNat? rest).map Int.ofNat
    | '-' :: rest => (readNat? rest).map fun n => -(n : Int)
    | cs => (readNat? cs).map Int.ofNat
  value.filter fun n => int64Low ≤ n && n ≤ int64High

end RunnerRelease.Text
