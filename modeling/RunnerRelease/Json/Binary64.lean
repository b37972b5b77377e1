/-!
# Binary floating point

Magnitudes of the 64-bit binary format in exact arithmetic: rounding of ratios,
the reading of decimals, and the shortest decimal that reads back.

## Implementation notes

A magnitude is `mantissa * 2 ^ exponent` with a mantissa below `2 ^ 53`; signs are
kept elsewhere, since zero has two of them. A decimal is read in up to three
roundings: its digits become a magnitude, the power of ten another, and their
product or quotient a third. Digits beyond those that fit 64 bits are not kept.
-/

namespace RunnerRelease

/-- A magnitude of the 64-bit binary format. -/
structure Binary64 where
  mantissa : Nat
  exponent : Int
deriving DecidableEq, Repr

namespace Binary64

/-- A power of two. -/
def pow2 (n : Nat) : Nat := Nat.pow 2 n

/-- A power of ten. -/
def pow10 (n : Nat) : Nat := Nat.pow 10 n

/-- The magnitude zero. -/
def zero : Binary64 := ⟨0, 0⟩

/-- The magnitude as a ratio of natural numbers, the second of them positive. -/
def ratio (x : Binary64) : Nat × Nat :=
  if 0 ≤ x.exponent then (x.mantissa * pow2 x.exponent.toNat, 1)
  else (x.mantissa, pow2 (-x.exponent).toNat)

/-- The quotient rounded to the nearest whole number, ties to the even one. -/
def roundDiv (num den : Nat) : Nat :=
  let q := num / den
  let twice := 2 * (num % den)
  if twice < den then q
  else if den < twice then q + 1
  else q + q % 2

/-- The quotient of a ratio by a power of two, rounded. -/
def scaledDiv (num den : Nat) (exponent : Int) : Nat :=
  if 0 ≤ exponent then roundDiv num (den * pow2 exponent.toNat)
  else roundDiv (num * pow2 (-exponent).toNat) den

/-- The magnitude nearest to a ratio, absent beyond the largest one. -/
def ofRatio (num den : Nat) : Option Binary64 :=
  if num = 0 then some zero
  else
    let guess : Int := (Nat.log2 num : Int) - Nat.log2 den - 53
    -- the mantissa needs 53 bits, and the guess can be one too low
    let exact : Int := if scaledDiv num den guess < pow2 53 then guess else guess + 1
    let exponent := max exact (-1074)
    let mantissa := scaledDiv num den exponent
    let (mantissa, exponent) :=
      if mantissa = pow2 53 then (pow2 52, exponent + 1) else (mantissa, exponent)
    if mantissa = 0 then some zero
    else if 971 < exponent then none
    else some ⟨mantissa, exponent⟩

/-- The magnitude of a natural number. -/
def ofNat? (n : Nat) : Option Binary64 := ofRatio n 1

/-- The product, rounded. -/
def mul? (a b : Binary64) : Option Binary64 :=
  ofRatio (a.ratio.1 * b.ratio.1) (a.ratio.2 * b.ratio.2)

/-- The quotient by a positive magnitude, rounded. -/
def div? (a b : Binary64) : Option Binary64 :=
  ofRatio (a.ratio.1 * b.ratio.2) (a.ratio.2 * b.ratio.1)

/-- Scales a magnitude down by powers of ten, at most 308 of them at a time. -/
def scaleDown : Nat → Binary64 → Nat → Option Binary64
  | 0, x, _ => some x
  | fuel + 1, x, places =>
    if x.mantissa = 0 then some x
    else if places ≤ 308 then (ofNat? (pow10 places)).bind x.div?
    else do scaleDown fuel (← x.div? (← ofNat? (pow10 308))) (places - 308)

/-- The magnitude of `digits * 10 ^ exponent`, absent when out of range. -/
def ofDecimal? (digits : Nat) (exponent : Int) : Option Binary64 := do
  let x ← ofNat? digits
  if 0 ≤ exponent then
    if x.mantissa = 0 then return x
    else if 308 < exponent then none
    else x.mul? (← ofNat? (pow10 exponent.toNat))
  else scaleDown 4 x (-exponent).toNat

/-- The magnitude nearest to `digits * 10 ^ exponent`, rounded once. -/
def nearestDecimal? (digits : Nat) (exponent : Int) : Option Binary64 :=
  if 0 ≤ exponent then ofRatio (digits * pow10 exponent.toNat) 1
  else ofRatio digits (pow10 (-exponent).toNat)

/-- The exponent of ten of the first digit of a positive ratio. -/
def leadingPlace (num den : Nat) : Int :=
  if den ≤ num then (Nat.toDigits 10 (num / den)).length - 1
  else
    let zeros := (Nat.toDigits 10 (den / num)).length
    -- the quotient is in (10 ^ -zeros, 10 ^ (1 - zeros)], the upper end only for a power of ten
    if den ≤ num * pow10 (zeros - 1) then 1 - (zeros : Int) else -(zeros : Int)

/-- The ratio on the decimal grid with the given last place, rounded down or to nearest. -/
def gridPoint (num den : Nat) (place : Int) : Nat :=
  if 0 ≤ place then roundDiv num (den * pow10 place.toNat)
  else roundDiv (num * pow10 (-place).toNat) den

/--
Among the decimals with at most so many digits more than already tried, the first
that reads back as the magnitude, as digits and the place of the last digit.
-/
def searchDecimal (x : Binary64) (first : Int) : Nat → Nat → Nat × Int
  | 0, count =>
    let place := first - count + 1
    (gridPoint x.ratio.1 x.ratio.2 place, place)
  | fuel + 1, count =>
    let place := first - count + 1
    let near := gridPoint x.ratio.1 x.ratio.2 place
    match [near, near + 1, near - 1].find? fun d => nearestDecimal? d place == some x with
    | some d => (d, place)
    | none => searchDecimal x first fuel (count + 1)

/-- The decimal with the fewest digits that reads back as the magnitude. -/
def shortest (x : Binary64) : Nat × Int :=
  if x.mantissa = 0 then (0, 0)
  else searchDecimal x (leadingPlace x.ratio.1 x.ratio.2) 16 1

/-- Removes zeros at the end of the digits, counting them into the exponent. -/
def stripZeros : Nat → Nat → Int → Nat × Int
  | 0, digits, exponent => (digits, exponent)
  | fuel + 1, digits, exponent =>
    if digits ≠ 0 ∧ digits % 10 = 0 then stripZeros fuel (digits / 10) (exponent + 1)
    else (digits, exponent)

/--
The text of a magnitude: positional while the decimal point stands within
seventeen places of the first digit, with an exponent beyond.
-/
def render (x : Binary64) : String :=
  let (digits, exponent) := stripZeros 20 x.shortest.1 x.shortest.2
  let ds := Nat.toDigits 10 digits
  let point : Int := ds.length + exponent
  if x.mantissa = 0 then "0.0"
  else if 0 ≤ exponent ∧ point ≤ 16 then
    .ofList (ds ++ List.replicate exponent.toNat '0') ++ ".0"
  else if 0 < point ∧ point ≤ 16 then
    .ofList (ds.take point.toNat) ++ "." ++ .ofList (ds.drop point.toNat)
  else if -5 < point ∧ point ≤ 0 then
    "0." ++ .ofList (List.replicate (-point).toNat '0' ++ ds)
  else
    let fraction := if ds.length = 1 then "" else "." ++ .ofList (ds.drop 1)
    .ofList (ds.take 1) ++ fraction ++ "e" ++ toString (point - 1)

end Binary64

end RunnerRelease
