import RunnerRelease.Yaml.Cursor
import RunnerRelease.Yaml.Token
import RunnerRelease.Json.Parser

/-!
# Anchors, tags and directives of YAML

The parts of a YAML text that name nodes, give them a type, or prepare a document.

## Implementation notes

A tag is a handle and a suffix; what the handle stands for is looked up later. Octets
that a suffix spells with percent signs become the characters of the same numbers:
tags are only ever compared with tags in ASCII.
-/

namespace RunnerRelease.Yaml

/-- Reads the name of an anchor or of a reference to one, after its indicator. -/
def readName (c : Cursor) : Option (String × Cursor) :=
  let (name, next) := (c.skip 1).takeWhile isNameChar
  if !name.isEmpty &&
      (next.seesBlankOrEnd 0 || next.sees 0 fun ch => "?:,]\x7d%@\x60".toList.contains ch) then
    some (.ofList name, next)
  else none

/-- A character that may stand for itself in a tag. -/
def isTagChar (verbatim : Bool) (c : Char) : Bool :=
  isNameChar c || ";/?:@&=+$.!~*'()".toList.contains c ||
    (verbatim && (c = ',' || c = '[' || c = ']'))

/-- The number of octets of a character with the given leading octet. -/
def octetCount? (octet : Nat) : Option Nat :=
  if octet < 0x80 then some 1
  else if 0xC0 ≤ octet && octet < 0xE0 then some 2
  else if 0xE0 ≤ octet && octet < 0xF0 then some 3
  else if 0xF0 ≤ octet && octet < 0xF8 then some 4
  else none

/-- Reads an octet that is spelled by a percent sign and two hexadecimal digits. -/
def readOctet (c : Cursor) : Option (Nat × Cursor) := do
  if c.sees 0 (· == '%') then
    let high ← (c.peek 1).bind Json.hexValue?
    let low ← (c.peek 2).bind Json.hexValue?
    return (high * 16 + low, c.skip 3)
  else none

/-- Reads octets that continue a character. -/
def readContinuation : Nat → Cursor → Option (List Char × Cursor)
  | 0, c => some ([], c)
  | count + 1, c => do
    let (octet, c) ← readOctet c
    if 0x80 ≤ octet ∧ octet < 0xC0 then
      let (octets, c) ← readContinuation count c
      return (Char.ofNat octet :: octets, c)
    else none

/-- Reads the characters of a tag or of a handle's meaning. -/
def readTagChars (verbatim : Bool) : Nat → Cursor → Option (List Char × Cursor)
  | 0, c => some ([], c)
  | fuel + 1, c =>
    match c.peek 0 with
    | none => some ([], c)
    | some ch =>
      if ch = '%' then do
        let (octet, c) ← readOctet c
        let count ← octetCount? octet
        let (octets, c) ← readContinuation (count - 1) c
        let (text, c) ← readTagChars verbatim fuel c
        return (Char.ofNat octet :: octets ++ text, c)
      else if isTagChar verbatim ch then
        (readTagChars verbatim fuel (c.skip 1)).map fun (text, c) => (ch :: text, c)
      else some ([], c)

/-- Reads a handle: exclamation marks around a name, the second of which may lack. -/
def readHandle (c : Cursor) : Option (List Char × Cursor) :=
  if c.sees 0 (· == '!') then
    let (name, next) := (c.skip 1).takeWhile isNameChar
    if next.sees 0 (· == '!') then some ('!' :: name ++ ['!'], next.skip 1)
    else some ('!' :: name, next)
  else none

/-- Reads a tag. -/
def readTag (inFlow : Bool) (c : Cursor) : Option (Token × Cursor) := do
  let (token, c) ←
    if c.sees 1 (· == '<') then do
      let (suffix, c) ← readTagChars true c.rest.length (c.skip 2)
      if !suffix.isEmpty && c.sees 0 (· == '>') then
        pure (Token.tag "" (.ofList suffix), c.skip 1)
      else none
    else do
      let (handle, c) ← readHandle c
      let (suffix, c) ← readTagChars false c.rest.length c
      if 2 ≤ handle.length && handle.getLast? == some '!' then
        if suffix.isEmpty then none else pure (Token.tag (.ofList handle) (.ofList suffix), c)
      else
        let suffix := handle.drop 1 ++ suffix
        if suffix.isEmpty then pure (Token.tag "" "!", c)
        else pure (Token.tag "!" (.ofList suffix), c)
  if (inFlow && c.sees 0 (· == ',')) || c.seesBlankOrEnd 0 then return (token, c) else none

/-- Reads a number of at most nine digits in a version. -/
def readVersionNumber (c : Cursor) : Option (Nat × Cursor) :=
  let (digits, next) := c.takeWhile fun ch => '0' ≤ ch && ch ≤ '9'
  if digits.length ≤ 9 then (Text.readNat? digits).map fun n => (n, next) else none

/-- Reads the version that a directive declares. -/
def readVersion (c : Cursor) : Option (Token × Cursor) := do
  let (major, c) ← readVersionNumber (c.skipWhile isBlank)
  if c.sees 0 (· == '.') then
    let (minor, c) ← readVersionNumber (c.skip 1)
    return (.version major minor, c)
  else none

/-- Reads the tag handle that a directive declares. -/
def readTagHandle (c : Cursor) : Option (Token × Cursor) := do
  let (handle, c) ← readHandle (c.skipWhile isBlank)
  if handle.length = 1 ∨ handle.getLast? = some '!' then
    if c.sees 0 isBlank then
      let c := c.skipWhile isBlank
      let (stem, c) ← readTagChars true c.rest.length c
      if !stem.isEmpty && c.seesBlankOrEnd 0 then
        return (.tagHandle (.ofList handle) (.ofList stem), c)
      else none
    else none
  else none

/-- Reads a directive through the end of its line. -/
def readDirective (c : Cursor) : Option (Token × Cursor) := do
  let (name, c) := (c.skip 1).takeWhile isNameChar
  if c.seesBlankOrEnd 0 then
    let (token, c) ←
      if name = "YAML".toList then readVersion c
      else if name = "TAG".toList then readTagHandle c
      else none
    let c := (c.skipWhile isBlank).skipComment
    if c.seesLineEnd then return (token, c.skipLine) else none
  else none

end RunnerRelease.Yaml
