import RunnerRelease.Policy.Basic
import RunnerRelease.Text.Utf8
import RunnerRelease.Yaml.Node
import RunnerRelease.Yaml.Scanner

/-!
# Policies in documents

Reading of a policy from a YAML text or a file.

## Implementation notes

The root must be a mapping, or nothing at all. Known keys are given at most once and
take scalars, references to scalars included; other keys are passed over with all
that they hold. A number is a plain scalar: quoted digits are a text. A text may be
any scalar, however it would read otherwise.
-/

namespace RunnerRelease

open Yaml

namespace Yaml.YamlDocument

/-- The scalar that a node is or refers to. -/
def scalar? (d : YamlDocument) : Node → Option Scalar
  | .scalar value => some value
  | .reference anchor => (d.anchors.lookup anchor).join
  | _ => none

end Yaml.YamlDocument

/-- The digit with a value below the radix that a character is. -/
def radixDigit? (radix : Nat) (c : Char) : Option Nat :=
  (Json.hexValue? c).filter (· < radix)

/-- The value of one or more digits in a radix, below 2⁶⁴. -/
def radixNumber? (radix : Nat) (cs : List Char) : Option UInt64 :=
  if cs.isEmpty then none
  else
    (cs.foldlM (fun value c => (radixDigit? radix c).map (value * radix + ·)) 0).bind fun n =>
      if n < UInt64.size then some (UInt64.ofNat n) else none

/-- Whether a text starts with a sign. -/
def startsWithSign (cs : List Char) : Bool := cs.head? == some '+' || cs.head? == some '-'

/-- Whether a text, a sign apart, is a zero followed by more digits. -/
def hasLeadingZero (cs : List Char) : Bool :=
  let digits := if startsWithSign cs then cs.tail else cs
  digits.length > 1 && digits.head? == some '0' &&
    digits.tail.all fun c => '0' ≤ c && c ≤ '9'

/-- The number after a mark of its radix, unless the text does not have that form. -/
def markedNumber? (mark : Char) (radix : Nat) : List Char → Option UInt64
  | '0' :: c :: digits =>
    if c = mark ∧ ¬startsWithSign digits then radixNumber? radix digits else none
  | _ => none

/-- Whether a text has a mark of the given radix and then a sign. -/
def markedSign (cs : List Char) : Bool :=
  match cs with
  | '0' :: c :: digits => (c == 'x' || c == 'o' || c == 'b') && startsWithSign digits
  | _ => false

/--
The number that a scalar spells: decimal without leading zeros, or with `0x`, `0o` or
`0b` in front, after an optional plus sign.
-/
def plainNumber? (text : String) : Option UInt64 :=
  let chars := text.toList
  let unsigned := if chars.head? == some '+' then chars.tail else chars
  if markedSign unsigned then none
  else
    markedNumber? 'x' 16 unsigned <|> markedNumber? 'o' 8 unsigned <|>
      markedNumber? 'b' 2 unsigned <|>
      (if startsWithSign unsigned || hasLeadingZero chars then none
        else radixNumber? 10 unsigned)

/-- The number that a scalar is; a literal block counts if its tag says so. -/
def Yaml.Scalar.number? (s : Scalar) : Option UInt64 :=
  if s.style = .plain ∨ s.style = .literal ∧ s.tag = some "tag:yaml.org,2002:int" then
    plainNumber? s.text
  else none

namespace Policy

/-- The policy after one more entry, and the known keys met so far. -/
def readEntry (d : YamlDocument) (state : Policy × List String) (entry : Node × Node) :
    Option (Policy × List String) := do
  let (policy, met) := state
  let key := (← d.scalar? entry.1).text
  if met.contains key then none
  else if key = timeoutKey then
    return ({ policy with timeout := ← (← d.scalar? entry.2).number? }, key :: met)
  else if key = retryKey then
    return ({ policy with retryDelay := ← (← d.scalar? entry.2).number? }, key :: met)
  else if key = rateLimitKey then
    return ({ policy with rateLimitDelay := ← (← d.scalar? entry.2).number? }, key :: met)
  else if key = containerKey then
    return ({ policy with container := (← d.scalar? entry.2).text }, key :: met)
  else return state

/-- The policy that a document describes. -/
def ofDocument? (d : YamlDocument) : Option Policy :=
  match d.root with
  | .mapping entries => (entries.foldlM (readEntry d) ({}, [])).map (·.1)
  | .scalar value => if value.style = .plain ∧ value.text = "" then some {} else none
  | _ => none

/-- What keeps a policy from being read. -/
inductive ReadProblem where
  | unreadableFile
  | malformed
deriving DecidableEq, Repr

/-- The wording of a problem. -/
def ReadProblem.message : ReadProblem → String
  | .unreadableFile => "Failed to read config file"
  | .malformed => "Failed to parse config YAML"

/-- Reads a policy from a YAML text; an empty text gives the default policy. -/
def ofYaml (text : String) : Except ReadProblem Policy :=
  match (tokens? text).bind document? with
  | none => .error .malformed
  | some none => .ok {}
  | some (some d) => match ofDocument? d with
    | some policy => .ok policy
    | none => .error .malformed

/-- Reads a policy from the content of a file, absent where there is no file. -/
def ofFile (content : Option Text.Bytes) : Except ReadProblem Policy :=
  match content.bind Text.decode? with
  | some text => ofYaml text
  | none => .error .unreadableFile

end Policy

end RunnerRelease
