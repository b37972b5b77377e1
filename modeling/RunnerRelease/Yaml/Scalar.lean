import RunnerRelease.Yaml.Cursor
import RunnerRelease.Yaml.Token
import RunnerRelease.Json.Parser

/-!
# Scalars of YAML

The five ways to write a text: plain, in single or double quotes, and as a literal or
folded block.

## Implementation notes

Blanks and line ends between the words of a plain or quoted scalar form a gap. A gap
within a line stays as it is; of a gap with line ends the first one becomes a space
unless more follow, and the blanks around them vanish. Loops over the text are given
the number of characters left as fuel, of which every round uses at least one.
-/

namespace RunnerRelease.Yaml

/-- The blanks and line ends between two words. -/
structure Gap where
  /-- Whether a line ends within the gap. -/
  broken : Bool := false
  blanks : List Char := []
  firstBreak : List Char := []
  moreBreaks : List Char := []

/-- What a gap contributes to the text around it. -/
def Gap.fold (g : Gap) : List Char :=
  if g.broken then
    if g.firstBreak.head? == some '\n' then
      if g.moreBreaks.isEmpty then [' '] else g.moreBreaks
    else g.firstBreak ++ g.moreBreaks
  else g.blanks

/--
Reads blanks and line ends. After a line end, a tab left of the given column is
refused.
-/
def readGap (tabLimit : Nat) : Nat → Cursor → Gap → Option (Gap × Cursor)
  | 0, c, g => some (g, c)
  | fuel + 1, c, g =>
    match c.peek 0 with
    | none => some (g, c)
    | some ch =>
      if isBlank ch then
        if g.broken && ch == '\t' && c.column < tabLimit then none
        else if g.broken then readGap tabLimit fuel (c.skip 1) g
        else readGap tabLimit fuel (c.skip 1) { g with blanks := g.blanks ++ [ch] }
      else if isBreak ch then
        let (text, next) := c.readLine
        if g.broken then
          readGap tabLimit fuel next { g with moreBreaks := g.moreBreaks ++ text }
        else readGap tabLimit fuel next { broken := true, firstBreak := text }
      else some (g, c)

/-! ### Quoted scalars -/

/-- The character that an escape of one letter stands for. -/
def escape? (c : Char) : Option Char :=
  if c = '0' then some '\x00'
  else if c = 'a' then some '\x07'
  else if c = 'b' then some '\x08'
  else if c = 't' ∨ c = '\t' then some '\t'
  else if c = 'n' then some '\n'
  else if c = 'v' then some '\x0b'
  else if c = 'f' then some '\x0c'
  else if c = 'r' then some '\r'
  else if c = 'e' then some '\x1b'
  else if c = ' ' then some ' '
  else if c = '\x22' then some '\x22'
  else if c = '/' then some '/'
  else if c = '\\' then some '\\'
  else if c = 'N' then some '\x85'
  else if c = '_' then some '\xa0'
  else if c = 'L' then some '\u2028'
  else if c = 'P' then some '\u2029'
  else none

/-- The number of hexadecimal digits that follow the letter of an escape. -/
def escapeDigits? (c : Char) : Option Nat :=
  if c = 'x' then some 2
  else if c = 'u' then some 4
  else if c = 'U' then some 8
  else none

/-- The value of hexadecimal digits. -/
def hexNumber? (cs : List Char) : Option Nat :=
  cs.foldlM (fun value c => (Json.hexValue? c).map (value * 16 + ·)) 0

/-- The character that an escape stands for, and the place after the escape. -/
def readEscape (c : Cursor) : Option (Char × Cursor) := do
  let letter ← c.peek 1
  match escapeDigits? letter with
  | none => return (← escape? letter, c.skip 2)
  | some count =>
    let digits := (c.rest.drop 2).take count
    let value ← hexNumber? digits
    if digits.length = count ∧ value ≤ 0x10FFFF ∧ ¬(0xD800 ≤ value ∧ value ≤ 0xDFFF) then
      return (Char.ofNat value, c.skip (2 + count))
    else none

/--
Reads the characters of a quoted scalar up to a blank, a line end or the closing
quotation mark; the flag says that an escaped line end was met.
-/
def readQuotedWord (single : Bool) : Nat → Cursor → Option (List Char × Bool × Cursor)
  | 0, c => some ([], false, c)
  | fuel + 1, c =>
    match c.peek 0 with
    | none => some ([], false, c)
    | some ch =>
      if isBlank ch || isBreak ch then some ([], false, c)
      else if single then
        if ch = '\x27' then
          if c.sees 1 (· == '\x27') then
            (readQuotedWord single fuel (c.skip 2)).map fun (word, broken, c) =>
              ('\x27' :: word, broken, c)
          else some ([], false, c)
        else
          (readQuotedWord single fuel (c.skip 1)).map fun (word, broken, c) =>
            (ch :: word, broken, c)
      else if ch = '\x22' then some ([], false, c)
      else if ch = '\\' then
        if c.sees 1 isBreak then some ([], true, (c.skip 1).skipLine)
        else do
          let (escaped, c) ← readEscape c
          let (word, broken, c) ← readQuotedWord single fuel c
          return (escaped :: word, broken, c)
      else
        (readQuotedWord single fuel (c.skip 1)).map fun (word, broken, c) =>
          (ch :: word, broken, c)

/-- Reads a quoted scalar after its opening quotation mark, through the closing one. -/
def readQuotedRest (single : Bool) : Nat → Cursor → Option (List Char × Cursor)
  | 0, _ => none
  | fuel + 1, c =>
    if c.seesDocumentEdge || c.atEnd then none
    else do
      let (word, broken, c) ← readQuotedWord single c.rest.length c
      if c.sees 0 (· == if single then '\x27' else '\x22') then return (word, c.skip 1)
      else
        let (gap, c) ← readGap 0 (c.rest.length + 1) c { broken }
        let (text, c) ← readQuotedRest single fuel c
        return (word ++ gap.fold ++ text, c)

/-- Reads a quoted scalar. -/
def readQuoted (single : Bool) (c : Cursor) : Option (Token × Cursor) :=
  (readQuotedRest single (c.rest.length + 1) (c.skip 1)).map fun (text, c) =>
    (.scalar (if single then .singleQuoted else .doubleQuoted) (.ofList text), c)

/-! ### Plain scalars -/

/-- A character that has a meaning of its own within brackets and braces. -/
def isFlowIndicator (c : Char) : Bool :=
  c = ',' || c = '[' || c = ']' || c = '{' || c = '}'

/--
Reads the characters of a plain scalar up to a blank, a line end or an indicator that
ends it. Within brackets and braces, a colon before an indicator is refused.
-/
def readPlainWord (inFlow : Bool) : Nat → Cursor → Option (List Char × Cursor)
  | 0, c => some ([], c)
  | fuel + 1, c =>
    match c.peek 0 with
    | none => some ([], c)
    | some ch =>
      if isBlank ch || isBreak ch then some ([], c)
      else if inFlow && ch == ':' && c.sees 1 (fun n => isFlowIndicator n || n == '?') then none
      else if (ch == ':' && c.seesBlankOrEnd 1) || (inFlow && isFlowIndicator ch) then
        some ([], c)
      else (readPlainWord inFlow fuel (c.skip 1)).map fun (word, c) => (ch :: word, c)

/--
Reads the words of a plain scalar that is indented at least so far; the flag says
that the last gap, which is not part of the scalar, ended a line.
-/
def readPlainRest (inFlow : Bool) (indent : Nat) :
    Nat → Cursor → Gap → Option (List Char × Bool × Cursor)
  | 0, c, gap => some ([], gap.broken, c)
  | fuel + 1, c, gap =>
    if c.seesDocumentEdge || c.sees 0 (· == '#') then some ([], gap.broken, c)
    else do
      let (word, next) ← readPlainWord inFlow c.rest.length c
      let before := if word.isEmpty then [] else gap.fold
      let pending := if word.isEmpty then gap else {}
      if next.sees 0 fun ch => isBlank ch || isBreak ch then
        let (following, next) ← readGap indent (next.rest.length + 1) next pending
        if !inFlow && next.column < indent then return (before ++ word, following.broken, next)
        else
          let (text, broken, next) ← readPlainRest inFlow indent fuel next following
          return (before ++ word ++ text, broken, next)
      else return (before ++ word, pending.broken, next)

/-- Reads a plain scalar; the flag says that a line ended after it. -/
def readPlain (inFlow : Bool) (indent : Nat) (c : Cursor) : Option (Token × Bool × Cursor) :=
  (readPlainRest inFlow indent (c.rest.length + 1) c {}).map fun (text, broken, c) =>
    (.scalar .plain (.ofList text), broken, c)

/-! ### Block scalars -/

/-- What becomes of the line ends at the end of a block scalar. -/
inductive Chomping where
  | strip
  | clip
  | keep
deriving DecidableEq

/-- The value of a digit that sets the indentation of a block scalar; zero is refused. -/
def indentDigit? (c : Char) : Option Nat :=
  if '1' ≤ c ∧ c ≤ '9' then some (c.toNat - 48) else none

/-- Reads the header of a block scalar after its indicator, up to the end of the line. -/
def readBlockHeader (c : Cursor) : Option (Chomping × Option Nat × Cursor) := do
  let chomping? (c : Cursor) : Option Chomping :=
    if c.sees 0 (· == '+') then some .keep
    else if c.sees 0 (· == '-') then some .strip
    else none
  let digit? (c : Cursor) : Bool := c.sees 0 fun ch => '0' ≤ ch && ch ≤ '9'
  let readIndent (c : Cursor) : Option (Option Nat × Cursor) :=
    if digit? c then ((c.peek 0).bind indentDigit?).map fun n => (some n, c.skip 1)
    else some (none, c)
  let (chomping, increment, c) ←
    match chomping? c with
    | some chomping => do
      let (increment, c) ← readIndent (c.skip 1)
      pure (chomping, increment, c)
    | none => do
      let (increment, c) ← readIndent c
      match increment, chomping? c with
      | some n, some chomping => pure (chomping, some n, c.skip 1)
      | increment, _ => pure (Chomping.clip, increment, c)
  let c := (c.skipWhile isBlank).skipComment
  if c.seesLineEnd then return (chomping, increment, c.skipLine) else none

/--
Reads indentation and empty lines of a block scalar: the line ends met, the widest
indentation seen and the place after them. An indentation of none is not known yet.
-/
def readIndentation (indent : Option Nat) :
    Nat → Cursor → Nat → Option (List Char × Nat × Cursor)
  | 0, c, widest => some ([], widest, c)
  | fuel + 1, c, widest =>
    let room := match indent with
      | none => c.rest.length
      | some n => n - c.column
    let c := c.skip ((c.rest.take room).takeWhile (· == ' ')).length
    let widest := max widest c.column
    if (indent.all fun n => c.column < n) && c.sees 0 (· == '\t') then none
    else if c.sees 0 isBreak then
      let (text, next) := c.readLine
      (readIndentation indent fuel next widest).map fun (breaks, widest, c) =>
        (text ++ breaks, widest, c)
    else some ([], widest, c)

/-- The state between two lines of a block scalar. -/
structure BlockLines where
  text : List Char := []
  /-- The end of the last line, and the empty lines after it. -/
  lineEnd : List Char := []
  emptyLines : List Char := []
  /-- Whether the last line started with a blank. -/
  blankStart : Bool := false

/-- Reads the lines of a block scalar that are indented as far as its first one. -/
def readBlockLines (literal : Bool) (indent : Nat) :
    Nat → Cursor → BlockLines → Option (BlockLines × Cursor)
  | 0, c, lines => some (lines, c)
  | fuel + 1, c, lines =>
    if c.column != indent || c.atEnd then some (lines, c)
    else do
      let blank := c.sees 0 isBlank
      let folds := !literal && lines.lineEnd.head? == some '\n' && !lines.blankStart && !blank
      let joint :=
        if folds then (if lines.emptyLines.isEmpty then [' '] else []) else lines.lineEnd
      let (line, c) := c.takeWhile fun ch => !isBreak ch
      let (lineEnd, c) := c.readLine
      let (emptyLines, _, c) ← readIndentation (some indent) (c.rest.length + 1) c 0
      readBlockLines literal indent fuel c {
        text := lines.text ++ joint ++ lines.emptyLines ++ line
        lineEnd, emptyLines, blankStart := blank }

/-- Reads a block scalar below a collection with the given indentation. -/
def readBlock (literal : Bool) (parent : Int) (c : Cursor) : Option (Token × Cursor) := do
  let (chomping, increment, c) ← readBlockHeader (c.skip 1)
  let indent := increment.map fun n => if 0 ≤ parent then parent.toNat + n else n
  let (emptyLines, widest, c) ← readIndentation indent (c.rest.length + 1) c 0
  let indent := indent.getD (max widest (max (parent + 1).toNat 1))
  let (lines, c) ← readBlockLines literal indent (c.rest.length + 1) c { emptyLines }
  let tail := match chomping with
    | .strip => []
    | .clip => lines.lineEnd
    | .keep => lines.lineEnd ++ lines.emptyLines
  return (.scalar (if literal then .literal else .folded) (.ofList (lines.text ++ tail)), c)

end RunnerRelease.Yaml
