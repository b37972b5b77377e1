/-!
# Blank characters and trimming

The Unicode property White_Space, and the removal of blank characters from both
ends of a text.

## Implementation notes

The property is a fixed table of twenty-five characters, so it is written out as
ranges of code points. Trimming is stated on character lists, where both ends
are handled by the same operation up to reversal.
-/

namespace RunnerRelease.Text

/-- A character is blank when it has the Unicode property White_Space. -/
def isBlank (c : Char) : Bool :=
  let n := c.toNat
  (9 ≤ n && n ≤ 13) || n == 0x20 || n == 0x85 || n == 0xA0 || n == 0x1680 ||
    (0x2000 ≤ n && n ≤ 0x200A) || n == 0x2028 || n == 0x2029 || n == 0x202F ||
    n == 0x205F || n == 0x3000

/-- The characters that remain when blank ones are removed from both ends. -/
def trimChars (cs : List Char) : List Char :=
  ((cs.dropWhile isBlank).reverse.dropWhile isBlank).reverse

/-- The text without the blank characters at both ends. -/
def trim (s : String) : String := .ofList (trimChars s.toList)

/-- A text is blank when nothing remains of it after trimming. -/
def isBlankText (s : String) : Bool := (trimChars s.toList).isEmpty

end RunnerRelease.Text
