import RunnerRelease.Text.Hidden

/-!
# Quoted text

A text between quotation marks in which everything that a reader could not see or
could mistake is spelled by an escape.

## Implementation notes

Escaped are the quotation mark, the backslash, control characters, and the
characters that print as nothing or attach to the character before them.
-/

namespace RunnerRelease.Text

/-- A character is shown as itself when it is visible and stands alone. -/
def isShown (c : Char) : Bool :=
  let n := c.toNat
  0x20 ≤ n && n != 0x7F && !isHidden c

/-- The spelling of a character between quotation marks. -/
def quoteChar (c : Char) : String :=
  match c with
  | '\x22' => "\\\""
  | '\\' => "\\\\"
  | '\t' => "\\t"
  | '\r' => "\\r"
  | '\n' => "\\n"
  | '\x00' => "\\0"
  | c =>
    if isShown c then c.toString
    else "\\u\x7b" ++ String.ofList (Nat.toDigits 16 c.toNat) ++ "\x7d"

/-- The text between quotation marks, with escapes. -/
def quoted (s : String) : String :=
  "\"" ++ String.join (s.toList.map quoteChar) ++ "\""

end RunnerRelease.Text
