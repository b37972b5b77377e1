import RunnerRelease.Text.Utf8
import RunnerRelease.Text.Decimal
import RunnerRelease.Json.Parser

/-!
# Addresses

Addresses of web resources: the reading of a text as an address, and the target of a
request to it.

## Implementation notes

An address is read as browsers read it. Blanks around it and tabs and line ends in it
are dropped, backslashes count as slashes, segments of one or two dots are resolved,
and what a path or a query must not hold is written with percent signs. Only
addresses with the schemes `http` and `https` are read; these always have a host.
Of the host only its form is checked: a name that is not ASCII is taken as it is.
-/

namespace RunnerRelease.Http

open Text

/-- An address. -/
structure Url where
  secure : Bool
  host : String
  portNumber : Option Nat
  /-- The segments of the path, written with percent signs where they must be. -/
  path : List String
  query : Option String
deriving DecidableEq, Repr

namespace Url

/-- The two hexadecimal digits, in capitals, of an octet. -/
def hexOctet (n : Nat) : List Char :=
  let digits := "0123456789ABCDEF".toList
  [digits.getD (n / 16) '0', digits.getD (n % 16) '0']

/-- Writes a character with percent signs. -/
def percentEncode (c : Char) : List Char :=
  (toBytes c.toString).flatMap fun b => '%' :: hexOctet b.toNat

/-- A character that every part of an address must write with percent signs. -/
def isAlwaysEncoded (c : Char) : Bool := c.toNat < 0x21 || 0x7E < c.toNat

/-- A character that a path must write with percent signs. -/
def isEncodedInPath (c : Char) : Bool :=
  isAlwaysEncoded c || "\"#<>?\x60\x7b\x7d".toList.contains c

/-- A character that a query must write with percent signs. -/
def isEncodedInQuery (c : Char) : Bool := isAlwaysEncoded c || "\"#<>'".toList.contains c

/-- Writes the characters that satisfy a test with percent signs. -/
def encodeWhere (test : Char → Bool) (cs : List Char) : List Char :=
  cs.flatMap fun c => if test c then percentEncode c else [c]

/-- A slash or a backslash. -/
def isSlash (c : Char) : Bool := c = '/' || c = '\\'

/-- The parts between the characters that satisfy a test, at least one. -/
def splitWhere (test : Char → Bool) : List Char → List (List Char)
  | [] => [[]]
  | c :: rest =>
    if test c then [] :: splitWhere test rest
    else match splitWhere test rest with
      | [] => [[c]]
      | part :: parts => (c :: part) :: parts

/-- The segment with spelled dots replaced by dots, in lower case. -/
def plainDots : List Char → List Char
  | '%' :: '2' :: c :: rest =>
    if c = 'e' ∨ c = 'E' then '.' :: plainDots rest else '%' :: '2' :: c :: plainDots rest
  | c :: rest => c :: plainDots rest
  | [] => []

/-- Whether a segment stands for the place it is in. -/
def isSingleDot (segment : List Char) : Bool := plainDots segment == ['.']

/-- Whether a segment stands for the place above. -/
def isDoubleDot (segment : List Char) : Bool := plainDots segment == ['.', '.']

/-- Resolves segments of dots, given the segments before in reverse. -/
def resolve : List String → List (List Char) → List String
  | done, [] => done.reverse
  | done, [last] =>
    if isDoubleDot last then ("" :: done.tail).reverse
    else if isSingleDot last then ("" :: done).reverse
    else (String.ofList (encodeWhere isEncodedInPath last) :: done).reverse
  | done, segment :: rest =>
    if isDoubleDot segment then resolve done.tail rest
    else if isSingleDot segment then resolve done rest
    else resolve (String.ofList (encodeWhere isEncodedInPath segment) :: done) rest

/-- The segments of a path as it stands in an address. -/
def readPath (cs : List Char) : List String :=
  match cs with
  | [] => [""]
  | c :: rest => resolve [] (splitWhere isSlash (if isSlash c then rest else c :: rest))

/-- The name of the scheme and what follows its colon. -/
def readScheme (cs : List Char) : Option (List Char × List Char) :=
  let isSchemeChar (c : Char) := c.isAlphanum || c = '+' || c = '-' || c = '.'
  match cs.span isSchemeChar with
  | (name, ':' :: rest) =>
    if (name.head?.any Char.isAlpha) then some (name.map Char.toLower, rest) else none
  | _ => none

/-- Replaces percent signs with two hexadecimal digits by the octets they spell. -/
def percentDecode : List Char → Bytes
  | [] => []
  | '%' :: a :: b :: rest =>
    match Json.hexValue? a, Json.hexValue? b with
    | some high, some low => UInt8.ofNat (high * 16 + low) :: percentDecode rest
    | _, _ => 0x25 :: percentDecode (a :: b :: rest)
  | c :: rest => toBytes c.toString ++ percentDecode rest

/-- A character that the name of a host must not hold. -/
def isForbiddenInHost (c : Char) : Bool :=
  c.toNat < 0x21 || c.toNat == 0x7F || "#/:<>?@[\\]^|%".toList.contains c

/-- The value of a part of a numeric host: decimal, octal or hexadecimal. -/
def hostNumber? (part : List Char) : Option Nat :=
  let digits? (radix : Nat) (cs : List Char) : Option Nat :=
    cs.foldlM (fun value c =>
      (Json.hexValue? c).bind fun d => if d < radix then some (value * radix + d) else none) 0
  match part with
  | [] => none
  | '0' :: x :: rest =>
    if x = 'x' ∨ x = 'X' then digits? 16 rest else digits? 8 (x :: rest)
  | cs => digits? 10 cs

/-- Whether numbers make up a numeric host: octets, the last one filling what is left. -/
def fillsAddress (numbers : List Nat) : Bool :=
  numbers.length ≤ 4 && numbers.dropLast.all (· ≤ 255) &&
    (numbers.getLast?.any fun n => n < Nat.pow 256 (5 - numbers.length))

/-- Whether a host whose last part is a number is a numeric host, or one that is a name. -/
def isNameOrAddress (cs : List Char) : Bool :=
  let parts := splitWhere (· = '.') cs
  let parts := if 1 < parts.length && parts.getLast? == some [] then parts.dropLast else parts
  let last := parts.getLast?.getD []
  let isNumber := !last.isEmpty && (last.all Char.isDigit ||
    (last.take 2).map Char.toLower == ['0', 'x'] && (hostNumber? last).isSome)
  if isNumber then ((parts.mapM hostNumber?).any fillsAddress) else true

/-- Whether text in brackets is an address of eight groups, some of which may be left out. -/
def isGroupedAddress (cs : List Char) : Bool :=
  let isGroup (g : List Char) :=
    !g.isEmpty && g.length ≤ 4 && g.all fun c => (Json.hexValue? c).isSome
  let isQuad (g : List Char) :=
    let parts := splitWhere (· = '.') g
    parts.length == 4 && parts.all fun p => !p.isEmpty && p.length ≤ 3 && p.all Char.isDigit &&
      (p.length == 1 || p.head? != some '0') && ((Text.readNat? p).any (· ≤ 255))
  let count (part : List Char) (mayEnd : Bool) : Option Nat :=
    if part.isEmpty then some 0
    else
      let groups := splitWhere (· = ':') part
      if mayEnd && isQuad (groups.getLast?.getD []) then
        if groups.dropLast.all isGroup then some (groups.length + 1) else none
      else if groups.all isGroup then some groups.length else none
  let rec gap : List Char → List Char → Option (List Char × List Char)
    | _, [] => none
    | before, ':' :: ':' :: rest => some (before.reverse, rest)
    | before, c :: rest => gap (c :: before) rest
  match gap [] cs with
  | none => count cs true == some 8
  | some (before, after) =>
    match count before false, count after true with
    | some m, some n => m + n ≤ 7
    | _, _ => false

/-- The host that a text names. -/
def readHost (cs : List Char) : Option String :=
  match cs with
  | [] => none
  | '[' :: rest =>
    if rest.getLast? == some ']' && isGroupedAddress rest.dropLast then some (.ofList cs) else none
  | cs => do
    let name ← decode? (percentDecode cs)
    let chars := name.toList.map Char.toLower
    if !chars.isEmpty && !chars.any isForbiddenInHost && isNameOrAddress chars then
      return .ofList chars
    else none

/-- The host that an authority names and the number after its colon. -/
def readAuthority (cs : List Char) : Option (String × Option Nat) := do
  let (host, number) :=
    if cs.head? == some '[' then
      let inside := cs.takeWhile (· != ']')
      let rest := cs.drop inside.length
      (inside ++ rest.take 1, rest.drop 1)
    else cs.span (· != ':')
  let host ← readHost host
  match number with
  | [] | [':'] => return (host, none)
  | ':' :: digits =>
    let n ← readNat? digits
    if n < 65536 then return (host, some n) else none
  | _ => none

/-- The text after its last at sign, or the whole text. -/
def afterUser (cs : List Char) : List Char := (splitWhere (· = '@') cs).getLast?.getD []

/-- The text without the characters that addresses drop. -/
def clean (s : String) : List Char :=
  let isEdge (c : Char) := c.toNat ≤ 0x20
  let cs := ((s.toList.dropWhile isEdge).reverse.dropWhile isEdge).reverse
  cs.filter fun c => c != '\t' && c != '\n' && c != '\r'

/-- Reads a text as an address. -/
def parse? (s : String) : Option Url := do
  let (scheme, rest) ← readScheme (clean s)
  let secure ←
    if scheme = "http".toList then some false
    else if scheme = "https".toList then some true
    else none
  let (authority, rest) := (rest.dropWhile isSlash).span fun c =>
    !(isSlash c || c == '?' || c == '#')
  let (host, number) ← readAuthority (afterUser authority)
  let (path, rest) := rest.span fun c => c != '?' && c != '#'
  let query := match rest with
    | '?' :: rest => some (.ofList (encodeWhere isEncodedInQuery (rest.takeWhile (· != '#'))))
    | _ => none
  return { secure, host, portNumber := number, path := readPath path, query }

/-- The address with parameters added to its query. -/
def addQuery (url : Url) (parameters : List (String × String)) : Url :=
  let added := "&".intercalate (parameters.map fun p => p.1 ++ "=" ++ p.2)
  match url.query with
  | none | some "" => { url with query := some added }
  | some query => { url with query := some (query ++ "&" ++ added) }

/-- The path as it is sent. -/
def pathText (url : Url) : String := String.join (url.path.map ("/" ++ ·))

/-- The path and the query as they are sent; an empty query is left out. -/
def target (url : Url) : String :=
  match url.query with
  | none | some "" => url.pathText
  | some query => url.pathText ++ "?" ++ query

/-- The longest address that can be sent, in bytes. -/
def longest : Nat := 65534

/-- The length of the whole address in bytes. -/
def size (url : Url) : Nat :=
  (if url.secure then 8 else 7) + url.host.utf8ByteSize +
    (url.portNumber.elim 0 fun n => (Nat.toDigits 10 n).length + 1) + url.target.utf8ByteSize

end Url

end RunnerRelease.Http
