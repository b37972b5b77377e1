import RunnerRelease.GitHub.Client
import RunnerRelease.Proofs.Json.Reading
import RunnerRelease.Proofs.Text.Utf8

/-!
# Pages in ASCII

A response whose body is made of ASCII characters means the page that these characters spell.

## Implementation notes

Bytes are put together character by character, without a text in between, so that the meaning of
a long page can be computed.
-/

namespace RunnerRelease

namespace Text

/-- The bytes of characters that are one byte each. -/
def asciiBytes (cs : List Char) : Bytes := cs.map fun c => UInt8.ofNat c.toNat

theorem decodeGroups_asciiBytes {cs : List Char} (h : ∀ c ∈ cs, c.toNat < 128) :
    decodeGroups (asciiBytes cs) = cs.map some := by
  induction cs with
  | nil => rw [asciiBytes, List.map_nil, decodeGroups, List.map_nil]
  | cons c rest ih =>
      rw [List.forall_mem_cons] at h
      have hleading : leadingByte (UInt8.ofNat c.toNat) = some (c.toNat, []) := by
        rw [leadingByte_ofNat (Nat.lt_trans h.1 (by decide)), if_pos h.1]
      rw [asciiBytes, List.map_cons, decodeGroups_of_leadingByte hleading rfl, Char.ofNat_toNat,
        List.map_cons]
      exact congrArg (some c :: ·) (ih h.2)

/-- ASCII bytes spell their characters. -/
theorem decode?_asciiBytes {cs : List Char} (h : ∀ c ∈ cs, c.toNat < 128) :
    decode? (asciiBytes cs) = some (String.ofList cs) :=
  decode?_of_decodeGroups (decodeGroups_asciiBytes h)

end Text

namespace GitHub

open Http

/-- The page that some characters spell. -/
def charsPage? (cs : List Char) : Option RunnerPage :=
  (Json.parseChars (cs.map some)).bind runnerPage?

/-- What a granted request has been answered with in ASCII means the page that is spelled. -/
theorem readPage_of_charsPage? {cs : List Char} {page : RunnerPage} {now : Int}
    (hascii : cs.all fun c => c.toNat < 128) (hpage : charsPage? cs = some page) :
    readPage now { status := 200, body := Text.asciiBytes cs } = .ok page := by
  have hsmall : ∀ c ∈ cs, c.toNat < 128 := by simpa using hascii
  have hbody : bodyPage? { status := 200, body := Text.asciiBytes cs } = some page := by
    rw [bodyPage?, if_neg Bool.false_ne_true,
      Json.parseBytes_of_decode? (Text.decode?_asciiBytes hsmall), Json.parse,
      String.toList_ofList]
    exact hpage
  have hgranted : rateLimitReset now { status := 200, body := Text.asciiBytes cs } = none := rfl
  rw [readPage, hgranted]
  simp only [Response.isSuccess, hbody]
  rfl

end GitHub

end RunnerRelease
