/-!
# Text from bytes

UTF-8 decoding in two forms: the strict one refuses malformed bytes, the lenient
one puts U+FFFD in place of each malformed group.

## Implementation notes

A malformed group is the longest beginning of a character that the bytes spell
before they go wrong, and at least one byte. Overlong forms, surrogates and code
points above U+10FFFF are excluded by the range of the second byte, so the two
forms agree on which bytes are well formed.
-/

namespace RunnerRelease.Text

/-- A sequence of octets as it travels in a message. -/
abbrev Bytes := List UInt8

/-- The bytes that spell a text. -/
def toBytes (s : String) : Bytes := s.toUTF8.toList

/--
The bits that a leading byte contributes and the ranges of the bytes that must
follow it, or nothing when no character starts with this byte.
-/
def leadingByte (b : UInt8) : Option (Nat × List (UInt8 × UInt8)) :=
  let n := b.toNat
  if n < 0x80 then some (n, [])
  else if 0xC2 ≤ n && n ≤ 0xDF then some (n - 0xC0, [(0x80, 0xBF)])
  else if n == 0xE0 then some (0, [(0xA0, 0xBF), (0x80, 0xBF)])
  else if n == 0xED then some (0xD, [(0x80, 0x9F), (0x80, 0xBF)])
  else if 0xE1 ≤ n && n ≤ 0xEF then some (n - 0xE0, [(0x80, 0xBF), (0x80, 0xBF)])
  else if n == 0xF0 then some (0, [(0x90, 0xBF), (0x80, 0xBF), (0x80, 0xBF)])
  else if 0xF1 ≤ n && n ≤ 0xF3 then
    some (n - 0xF0, [(0x80, 0xBF), (0x80, 0xBF), (0x80, 0xBF)])
  else if n == 0xF4 then some (4, [(0x80, 0x8F), (0x80, 0xBF), (0x80, 0xBF)])
  else none

/--
Reads following bytes as long as they lie in their ranges; the value is absent
when a byte is missing or out of range, and that byte is left unread.
-/
def followingBytes : Nat → List (UInt8 × UInt8) → Bytes → Option Nat × Bytes
  | bits, [], bs => (some bits, bs)
  | _, _ :: _, [] => (none, [])
  | bits, (lo, hi) :: ranges, b :: bs =>
    if lo ≤ b && b ≤ hi then followingBytes (bits * 64 + (b.toNat - 0x80)) ranges bs
    else (none, b :: bs)

/-- Following bytes are only ever taken from the front. -/
theorem length_followingBytes_le (bits : Nat) (ranges : List (UInt8 × UInt8)) (bs : Bytes) :
    (followingBytes bits ranges bs).2.length ≤ bs.length := by
  fun_induction followingBytes bits ranges bs with
  | case1 => simp
  | case2 => simp
  | case3 bits lo hi ranges b bs h ih => simp; omega
  | case4 => simp

/-- The characters that the bytes spell, an absent one for each malformed group. -/
def decodeGroups : Bytes → List (Option Char)
  | [] => []
  | b :: bs =>
    match leadingByte b with
    | none => none :: decodeGroups bs
    | some (bits, ranges) =>
      (followingBytes bits ranges bs).1.map Char.ofNat ::
        decodeGroups (followingBytes bits ranges bs).2
termination_by bs => bs.length
decreasing_by
  · simp
  · have := length_followingBytes_le bits ranges bs
    simp; omega

/-- The text that the bytes spell, if they are well-formed UTF-8. -/
def decode? (bs : Bytes) : Option String :=
  ((decodeGroups bs).mapM id).map String.ofList

/-- The text that the bytes spell, with U+FFFD for each malformed group. -/
def decodeLenient (bs : Bytes) : String :=
  .ofList ((decodeGroups bs).map (·.getD '\ufffd'))

/-- The number of bytes that spell the characters. -/
def utf8Length (cs : List Char) : Nat := cs.foldr (fun c n => c.utf8Size + n) 0

end RunnerRelease.Text
