/-!
# Places in a YAML text

The characters still to be read, together with the line, the column and the number
of those already read.

## Implementation notes

A line ends with a carriage return, a line feed, both in this order, or one of the
Unicode characters NEL, LS and PS. The end of the text counts as blank and as a line
end wherever one of these is looked for.
-/

namespace RunnerRelease.Yaml

/-- A character that ends a line. -/
def isBreak (c : Char) : Bool :=
  c = '\r' || c = '\n' || c = '\x85' || c = '\u2028' || c = '\u2029'

/-- A space or a tab. -/
def isBlank (c : Char) : Bool := c = ' ' || c = '\t'

/-- A character of which names of anchors, handles and directives are made. -/
def isNameChar (c : Char) : Bool :=
  ('0' ≤ c && c ≤ '9') || ('a' ≤ c && c ≤ 'z') || ('A' ≤ c && c ≤ 'Z') || c = '_' || c = '-'

/-- A character that a YAML text may hold. -/
def isAllowed (c : Char) : Bool :=
  let n := c.toNat
  n == 9 || n == 0xA || n == 0xD || (0x20 ≤ n && n ≤ 0x7E) || n == 0x85 ||
    (0xA0 ≤ n && n ≤ 0xD7FF) || (0xE000 ≤ n && n ≤ 0xFFFD) || 0x10000 ≤ n

/-- A place in a text. -/
structure Cursor where
  rest : List Char
  index : Nat := 0
  line : Nat := 0
  column : Nat := 0

namespace Cursor

/-- The character so many places on. -/
def peek (c : Cursor) (n : Nat) : Option Char := c.rest[n]?

/-- Whether the text ends here. -/
def atEnd (c : Cursor) : Bool := c.rest.isEmpty

/-- Whether the character so many places on satisfies a test. -/
def sees (c : Cursor) (n : Nat) (test : Char → Bool) : Bool := (c.peek n).any test

/-- Whether a blank, a line end or the end of the text is so many places on. -/
def seesBlankOrEnd (c : Cursor) (n : Nat) : Bool :=
  (c.peek n).all fun ch => isBlank ch || isBreak ch

/-- Whether a line end or the end of the text is here. -/
def seesLineEnd (c : Cursor) : Bool := (c.peek 0).all isBreak

/-- The place so many characters further on the same line. -/
def skip (c : Cursor) (n : Nat) : Cursor :=
  { c with rest := c.rest.drop n, index := c.index + n, column := c.column + n }

/-- The characters from here on that satisfy a test, and the place after them. -/
def takeWhile (c : Cursor) (test : Char → Bool) : List Char × Cursor :=
  let taken := c.rest.takeWhile test
  (taken, c.skip taken.length)

/-- The place after the characters from here on that satisfy a test. -/
def skipWhile (c : Cursor) (test : Char → Bool) : Cursor := (c.takeWhile test).2

/-- What a line end here adds to a text, and the start of the next line. -/
def readLine (c : Cursor) : List Char × Cursor :=
  match c.rest with
  | '\r' :: '\n' :: rest =>
    (['\n'], { rest, index := c.index + 2, line := c.line + 1, column := 0 })
  | ch :: rest =>
    if isBreak ch then
      (if ch = '\u2028' || ch = '\u2029' then [ch] else ['\n'],
        { rest, index := c.index + 1, line := c.line + 1, column := 0 })
    else ([], c)
  | [] => ([], c)

/-- The start of the next line, if a line ends here. -/
def skipLine (c : Cursor) : Cursor := c.readLine.2

/-- The place after a byte order mark at the very start; the mark takes up a column. -/
def skipByteOrderMark (c : Cursor) : Cursor :=
  if c.index == 0 && c.sees 0 (· == '\ufeff') then c.skip 1 else c

/-- The place after a comment, if there is one here. -/
def skipComment (c : Cursor) : Cursor :=
  if c.sees 0 (· == '#') then c.skipWhile fun ch => !isBreak ch else c

/-- Whether a line starts here with a mark of three characters that stands alone. -/
def seesDocumentMark (c : Cursor) (mark : Char) : Bool :=
  c.column == 0 && c.rest.take 3 == [mark, mark, mark] && c.seesBlankOrEnd 3

/-- Whether a document starts or ends on this line. -/
def seesDocumentEdge (c : Cursor) : Bool := c.seesDocumentMark '-' || c.seesDocumentMark '.'

end Cursor

end RunnerRelease.Yaml
