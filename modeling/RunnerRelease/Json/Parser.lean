import RunnerRelease.Json.Document
import RunnerRelease.Text.Utf8

/-!
# JSON texts, read

The strict grammar of JSON texts: one value, blanks around it, nothing else.

## Implementation notes

A step of the reader returns what it has read and the rest of the text. The depth of
nesting is bounded by the length of the text, which is why the readers of values
are given that length as fuel and never run out of it. Escapes are checked for
their form only; whether a string denotes a text is decided afterwards from its
code units.

Where the text comes from bytes, a character that they do not spell is absent. It can
stand within a string only, which then denotes no text: as with half of a surrogate
pair, that does no harm in a value that is skipped.
-/

namespace RunnerRelease.Json

/-- The blanks that may stand between the parts of a JSON text. -/
def isSpace (c : Char) : Bool := c = ' ' || c = '\n' || c = '\t' || c = '\r'

/-- The text without leading blanks. -/
def skipSpace (cs : List (Option Char)) : List (Option Char) := cs.dropWhile fun c => c.any isSpace

/-- The value of a hexadecimal digit. -/
def hexValue? (c : Char) : Option Nat :=
  if '0' ≤ c ∧ c ≤ '9' then some (c.toNat - 48)
  else if 'a' ≤ c ∧ c ≤ 'f' then some (c.toNat - 87)
  else if 'A' ≤ c ∧ c ≤ 'F' then some (c.toNat - 55)
  else none

/-- Reads four hexadecimal digits. -/
def readHex4 : List (Option Char) → Option (Nat × List (Option Char))
  | some a :: some b :: some c :: some d :: rest => do
    let a ← hexValue? a
    let b ← hexValue? b
    let c ← hexValue? c
    let d ← hexValue? d
    return (a * 4096 + b * 256 + c * 16 + d, rest)
  | _ => none

/-- The character that a short escape stands for. -/
def shortEscape? (c : Char) : Option Char :=
  if c = '\x22' then some '\x22'
  else if c = '\\' then some '\\'
  else if c = '/' then some '/'
  else if c = 'b' then some '\x08'
  else if c = 'f' then some '\x0c'
  else if c = 'n' then some '\n'
  else if c = 'r' then some '\r'
  else if c = 't' then some '\t'
  else none

/--
Reads the characters of a string up to its closing quotation mark. An escape of four
digits yields a code unit, everything else a character, which may be absent.
-/
def readUnits :
    Nat → List (Option Char) → Option (List (Nat ⊕ Option Char) × List (Option Char))
  | 0, _ => none
  | _, [] => none
  | fuel + 1, none :: rest => do
    let (units, rest) ← readUnits fuel rest
    return (.inr none :: units, rest)
  | fuel + 1, some c :: rest =>
    if c = '\x22' then some ([], rest)
    else if c = '\\' then
      match rest with
      | [] | none :: _ => none
      | some e :: rest =>
        if e = 'u' then do
          let (unit, rest) ← readHex4 rest
          let (units, rest) ← readUnits fuel rest
          return (.inl unit :: units, rest)
        else do
          let c ← shortEscape? e
          let (units, rest) ← readUnits fuel rest
          return (.inr (some c) :: units, rest)
    else if c.toNat < 0x20 then none
    else do
      let (units, rest) ← readUnits fuel rest
      return (.inr (some c) :: units, rest)

/--
The characters that code units and characters make up, if every surrogate has its half and no
character is absent.
-/
def joinUnits : List (Nat ⊕ Option Char) → Option (List Char)
  | [] => some []
  | .inr none :: _ => none
  | .inr (some c) :: rest => (joinUnits rest).map (c :: ·)
  | .inl high :: .inl low :: rest =>
    if 0xD800 ≤ high ∧ high ≤ 0xDBFF then
      if 0xDC00 ≤ low ∧ low ≤ 0xDFFF then
        (joinUnits rest).map
          (Char.ofNat (0x10000 + (high - 0xD800) * 0x400 + (low - 0xDC00)) :: ·)
      else none
    else if 0xDC00 ≤ high ∧ high ≤ 0xDFFF then none
    else (joinUnits (.inl low :: rest)).map (Char.ofNat high :: ·)
  | .inl unit :: rest =>
    if 0xD800 ≤ unit ∧ unit ≤ 0xDFFF then none
    else (joinUnits rest).map (Char.ofNat unit :: ·)

/-- Reads a string after its opening quotation mark. -/
def readString (cs : List (Option Char)) : Option (Option String × List (Option Char)) :=
  (readUnits (cs.length + 1) cs).map fun (units, rest) =>
    ((joinUnits units).map String.ofList, rest)

/-- The digits at the start of the text and what follows them. -/
def takeDigits (cs : List (Option Char)) : List Char × List (Option Char) :=
  let (digits, rest) := cs.span fun c => c.any fun c => (Text.digit? c).isSome
  (digits.filterMap id, rest)

/-- Reads an exponent, if there is one. -/
def readExponent : List (Option Char) → Option (Option Int × List (Option Char))
  | some c :: rest =>
    if c = 'e' ∨ c = 'E' then
      let (negative, rest) := match rest with
        | some '+' :: rest => (false, rest)
        | some '-' :: rest => (true, rest)
        | rest => (false, rest)
      let (digits, rest) := takeDigits rest
      (Text.readNat? digits).map fun n => (some (if negative then -(n : Int) else n), rest)
    else some (none, some c :: rest)
  | cs => some (none, cs)

/-- Reads a fraction, if there is one. -/
def readFraction : List (Option Char) → Option (List Char × List (Option Char))
  | some '.' :: rest =>
    let (digits, rest) := takeDigits rest
    if digits.isEmpty then none else some (digits, rest)
  | cs => some ([], cs)

/-- Reads a number; a leading zero stands alone. -/
def readNumeral (cs : List (Option Char)) : Option (Numeral × List (Option Char)) := do
  let (negative, cs) := match cs with
    | some '-' :: rest => (true, rest)
    | cs => (false, cs)
  let (whole, cs) := takeDigits cs
  if whole.isEmpty || (whole.length > 1 && whole.head? == some '0') then none
  else do
    let (fraction, cs) ← readFraction cs
    let (exponent, cs) ← readExponent cs
    return (⟨negative, whole, fraction, exponent⟩, cs)

/-- Removes a word from the start of the text. -/
def expectWord : List Char → List (Option Char) → Option (List (Option Char))
  | [], cs => some cs
  | _ :: _, [] => none
  | w :: word, c :: cs => if some w = c then expectWord word cs else none

mutual

/-- Reads a value at the start of the text. -/
def readValue : Nat → List (Option Char) → Option (Document × List (Option Char))
  | 0, _ => none
  | _, [] | _, none :: _ => none
  | fuel + 1, some c :: rest =>
    if c = 'n' then (expectWord "ull".toList rest).map (Document.null, ·)
    else if c = 't' then (expectWord "rue".toList rest).map (Document.bool true, ·)
    else if c = 'f' then (expectWord "alse".toList rest).map (Document.bool false, ·)
    else if c = '\x22' then (readString rest).map fun (s, rest) => (.string s, rest)
    else if c = '[' then
      match skipSpace rest with
      | some ']' :: rest => some (.array [], rest)
      | rest => (readItems fuel rest).map fun (items, rest) => (.array items, rest)
    else if c = '{' then
      match skipSpace rest with
      | some '}' :: rest => some (.object [], rest)
      | rest => (readMembers fuel rest).map fun (ms, rest) => (.object ms, rest)
    else (readNumeral (some c :: rest)).map fun (n, rest) => (.number n, rest)

/-- Reads the items of an array up to its closing bracket. -/
def readItems : Nat → List (Option Char) → Option (List Document × List (Option Char))
  | 0, _ => none
  | fuel + 1, cs => do
    let (item, cs) ← readValue fuel cs
    match skipSpace cs with
    | some ']' :: rest => return ([item], rest)
    | some ',' :: rest =>
      let (items, rest) ← readItems fuel (skipSpace rest)
      return (item :: items, rest)
    | _ => none

/-- Reads the members of an object up to its closing brace. -/
def readMembers :
    Nat → List (Option Char) → Option (List (Option String × Document) × List (Option Char))
  | 0, _ => none
  | fuel + 1, cs =>
    match cs with
    | some '\x22' :: rest => do
      let (key, rest) ← readString rest
      match skipSpace rest with
      | some ':' :: rest =>
        let (value, rest) ← readValue fuel (skipSpace rest)
        match skipSpace rest with
        | some '}' :: rest => return ([(key, value)], rest)
        | some ',' :: rest =>
          let (ms, rest) ← readMembers fuel (skipSpace rest)
          return ((key, value) :: ms, rest)
        | _ => none
      | _ => none
    | _ => none

end

/-- The document that characters spell, some of which may be absent, read as a whole. -/
def parseChars (cs : List (Option Char)) : Option Document := do
  let (document, rest) ← readValue (2 * cs.length + 2) (skipSpace cs)
  if (skipSpace rest).isEmpty then return document else none

/-- The text of a document, read as a whole. -/
def parse (s : String) : Option Document := parseChars (s.toList.map some)

/-- The bytes of a document, which need be well formed only where its strings are looked at. -/
def parseBytes (bs : Text.Bytes) : Option Document := parseChars (Text.decodeGroups bs)

end RunnerRelease.Json
