import RunnerRelease.Yaml.Property
import RunnerRelease.Yaml.Scalar

/-!
# From texts to tokens

The division of a YAML text into tokens, among them those that stand for a change of
indentation.

## Implementation notes

That a scalar is the key of a mapping shows only at the colon after it. The place
where such a key may have started is therefore remembered, one for each level of
brackets and braces, and the tokens that open a key are put in there once the colon
is met. A place is forgotten at the end of its line and after 1024 characters; where
a key is required, because the line starts in the column of an open mapping, its loss
is an error. Tokens are kept in an array, so that a place is the number of tokens
before it.
-/

namespace RunnerRelease.Yaml

/-- A place where the key of a mapping may have started. -/
structure KeyPlace where
  required : Bool
  token : Nat
  index : Nat
  line : Nat
  column : Nat

/-- The state of the division into tokens. -/
structure Scanner where
  cursor : Cursor
  tokens : Array Token := #[]
  /-- The column of the innermost open block collection, or minus one. -/
  indent : Int := -1
  /-- The columns of the collections around it. -/
  outerIndents : List Int := []
  /-- Where a key may have started on the current level. -/
  keyPlace : Option KeyPlace := none
  /-- The same for the levels around it, one for each open bracket or brace. -/
  outerKeyPlaces : List (Option KeyPlace) := []
  /-- Whether a key may start here. -/
  keyAllowed : Bool := true

namespace Scanner

/-- Whether a bracket or brace is open. -/
def inFlow (s : Scanner) : Bool := !s.outerKeyPlaces.isEmpty

/-- Adds a token at the end. -/
def push (s : Scanner) (token : Token) : Scanner := { s with tokens := s.tokens.push token }

/-- Adds a token and moves on by so many characters. -/
def pushSkip (s : Scanner) (token : Token) (n : Nat) : Scanner :=
  { s with tokens := s.tokens.push token, cursor := s.cursor.skip n }

/-- Forgets a place that has become too old, unless a key is required there. -/
def expire (cursor : Cursor) : Option KeyPlace → Option (Option KeyPlace)
  | none => some none
  | some place =>
    if place.line < cursor.line || place.index + 1024 < cursor.index then
      if place.required then none else some none
    else some (some place)

/-- Forgets all places that have become too old. -/
def expireKeys (s : Scanner) : Option Scanner := do
  let keyPlace ← expire s.cursor s.keyPlace
  let outerKeyPlaces ← s.outerKeyPlaces.mapM (expire s.cursor)
  return { s with keyPlace, outerKeyPlaces }

/-- Forgets the place of the current level, unless a key is required there. -/
def dropKey (s : Scanner) : Option Scanner :=
  match s.keyPlace with
  | some place => if place.required then none else some { s with keyPlace := none }
  | none => some s

/-- Remembers that a key may start here. -/
def saveKey (s : Scanner) : Option Scanner :=
  if s.keyAllowed then do
    let t ← s.dropKey
    return { t with keyPlace := some {
      required := !s.inFlow && s.indent == s.cursor.column
      token := s.tokens.size
      index := s.cursor.index, line := s.cursor.line, column := s.cursor.column } }
  else some s

/-- Opens a block collection in a column right of the current one, at the given token. -/
def openBlock (s : Scanner) (column token : Nat) (opening : Token) : Scanner :=
  if !s.inFlow && s.indent < column then
    { s with
      indent := column, outerIndents := s.indent :: s.outerIndents
      tokens := s.tokens.insertIdxIfInBounds token opening }
  else s

/-- Closes the open collections whose columns lie right of the given one. -/
def closeColumns (column : Int) : Int → List Int → Array Token → Int × List Int × Array Token
  | indent, [], tokens => (indent, [], tokens)
  | indent, outer :: rest, tokens =>
    if column < indent then closeColumns column outer rest (tokens.push .blockEnd)
    else (indent, outer :: rest, tokens)

/-- Closes the block collections whose columns lie right of the given one. -/
def closeBlocks (s : Scanner) (column : Int) : Scanner :=
  if s.inFlow then s
  else
    let (indent, outerIndents, tokens) := closeColumns column s.indent s.outerIndents s.tokens
    { s with indent, outerIndents, tokens }

/--
Moves past blanks, comments and line ends. Tabs count as blanks within brackets and
braces and where no key may start.
-/
def skipToToken : Nat → Scanner → Scanner
  | 0, s => s
  | fuel + 1, s =>
    let cursor := (s.cursor.skipByteOrderMark.skipWhile fun ch =>
      ch == ' ' || ((s.inFlow || !s.keyAllowed) && ch == '\t')).skipComment
    if cursor.sees 0 isBreak then
      skipToToken fuel
        { s with cursor := cursor.skipLine, keyAllowed := s.keyAllowed || !s.inFlow }
    else { s with cursor }

/-- Reads the indicator of an entry of a block sequence. -/
def readBlockEntry (s : Scanner) : Option Scanner := do
  if !s.inFlow && !s.keyAllowed then none
  else
    let s := s.openBlock s.cursor.column s.tokens.size .blockSequenceStart
    let s ← s.dropKey
    return { s.pushSkip .blockEntry 1 with keyAllowed := true }

/-- Reads the indicator of a key. -/
def readKey (s : Scanner) : Option Scanner := do
  if !s.inFlow && !s.keyAllowed then none
  else
    let s := s.openBlock s.cursor.column s.tokens.size .blockMappingStart
    let s ← s.dropKey
    return { s.pushSkip .key 1 with keyAllowed := !s.inFlow }

/-- Reads the indicator of a value, which makes a key of what was remembered as one. -/
def readValue (s : Scanner) : Option Scanner :=
  match s.keyPlace with
  | some place =>
    let s := { s with tokens := s.tokens.insertIdxIfInBounds place.token .key, keyPlace := none }
    let s := s.openBlock place.column place.token .blockMappingStart
    some { s.pushSkip .value 1 with keyAllowed := false }
  | none =>
    if !s.inFlow && !s.keyAllowed then none
    else
      let s := s.openBlock s.cursor.column s.tokens.size .blockMappingStart
      some { s.pushSkip .value 1 with keyAllowed := !s.inFlow }

/-- Reads an opening bracket or brace. -/
def openFlow (s : Scanner) (token : Token) : Option Scanner := do
  let s ← s.saveKey
  return { s.pushSkip token 1 with
    keyPlace := none, outerKeyPlaces := s.keyPlace :: s.outerKeyPlaces, keyAllowed := true }

/-- Reads a closing bracket or brace. -/
def closeFlow (s : Scanner) (token : Token) : Option Scanner := do
  let s ← s.dropKey
  let s := match s.outerKeyPlaces with
    | place :: rest => { s with keyPlace := place, outerKeyPlaces := rest }
    | [] => s
  return { s.pushSkip token 1 with keyAllowed := false }

/-- Reads a comma between the entries of brackets or braces. -/
def readFlowEntry (s : Scanner) : Option Scanner := do
  let s ← s.dropKey
  return { s.pushSkip .flowEntry 1 with keyAllowed := true }

/-- Ends all block collections before a directive or the edge of a document. -/
def endBlocks (s : Scanner) : Option Scanner := do
  let s ← (s.closeBlocks (-1)).dropKey
  return { s with keyAllowed := false }

/-- Reads a token with which a key may start, after which no other may. -/
def readContent (s : Scanner) (read : Cursor → Option (Token × Cursor)) : Option Scanner := do
  let s ← s.saveKey
  let (token, cursor) ← read s.cursor
  return { s with tokens := s.tokens.push token, cursor, keyAllowed := false }

/-- Reads a block scalar. -/
def readBlockScalar (s : Scanner) (literal : Bool) : Option Scanner := do
  let s ← s.dropKey
  let (token, cursor) ← readBlock literal s.indent s.cursor
  return { s with tokens := s.tokens.push token, cursor, keyAllowed := true }

/-- Reads a plain scalar; after one that ends a line a key may start. -/
def readPlainScalar (s : Scanner) : Option Scanner := do
  let s ← s.saveKey
  let (token, broken, cursor) ← readPlain s.inFlow (s.indent + 1).toNat s.cursor
  return { s with tokens := s.tokens.push token, cursor, keyAllowed := broken }

/-- Whether a plain scalar may start here. -/
def startsPlain (s : Scanner) (ch : Char) : Bool :=
  !(isBlank ch || isBreak ch || "-?:,[]\x7b\x7d#&*!|>'\"%@\x60".toList.contains ch) ||
    (ch == '-' && !s.cursor.sees 1 isBlank) ||
    (!s.inFlow && (ch == '?' || ch == ':') && !s.cursor.seesBlankOrEnd 1)

/-- Reads the token that starts here with the given character. -/
def readToken (s : Scanner) (ch : Char) : Option Scanner := do
  let c := s.cursor
  if c.column == 0 && ch == '%' then
    let s ← s.endBlocks
    let (token, cursor) ← readDirective c
    return { s with tokens := s.tokens.push token, cursor }
  else if c.seesDocumentMark '-' then return (← s.endBlocks).pushSkip .documentStart 3
  else if c.seesDocumentMark '.' then return (← s.endBlocks).pushSkip .documentEnd 3
  else if ch == '[' then s.openFlow .flowSequenceStart
  else if ch == '{' then s.openFlow .flowMappingStart
  else if ch == ']' then s.closeFlow .flowSequenceEnd
  else if ch == '}' then s.closeFlow .flowMappingEnd
  else if ch == ',' then s.readFlowEntry
  else if ch == '-' && c.seesBlankOrEnd 1 then s.readBlockEntry
  else if ch == '?' && (s.inFlow || c.seesBlankOrEnd 1) then s.readKey
  else if ch == ':' && (s.inFlow || c.seesBlankOrEnd 1) then s.readValue
  else if ch == '*' then
    s.readContent fun c => (readName c).map fun (name, c) => (.reference name, c)
  else if ch == '&' then
    s.readContent fun c => (readName c).map fun (name, c) => (.anchor name, c)
  else if ch == '!' then s.readContent (readTag s.inFlow)
  else if ch == '|' && !s.inFlow then s.readBlockScalar true
  else if ch == '>' && !s.inFlow then s.readBlockScalar false
  else if ch == '\x27' then s.readContent (readQuoted true)
  else if ch == '\x22' then s.readContent (readQuoted false)
  else if s.startsPlain ch then s.readPlainScalar
  else none

/-- Ends the text: the last line is over, and with it every block collection. -/
def finish (s : Scanner) : Option (List Token) := do
  let s ← s.endBlocks
  return (s.push .streamEnd).tokens.toList

/-- Reads tokens up to the end of the text. -/
def readAll : Nat → Scanner → Option (List Token)
  | 0, _ => none
  | fuel + 1, s => do
    let s := s.skipToToken (s.cursor.rest.length + 1)
    let s ← s.expireKeys
    let s := s.closeBlocks s.cursor.column
    match s.cursor.peek 0 with
    | none => s.finish
    | some ch => readAll fuel (← s.readToken ch)

end Scanner

/-- The tokens of a text. -/
def tokens? (text : String) : Option (List Token) :=
  let chars := text.toList
  if chars.all isAllowed then Scanner.readAll (chars.length + 1) { cursor := { rest := chars } }
  else none

end RunnerRelease.Yaml
