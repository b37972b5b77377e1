import RunnerRelease.Http.Url
import RunnerRelease.Proofs.Text.Utf8

/-!
# Percent signs

What a path writes with percent signs is read back as the bytes of its characters, unless a
percent sign was there before and spells an octet with what follows it. Then the bytes are fewer.

## Implementation notes

Percent signs are not written with percent signs, so that one that stands before two hexadecimal
digits is taken for an octet. These digits are characters of the text too, since whatever is
written for another character begins with a percent sign. Hence a step of the reader takes in one
character, or three that spell an octet.
-/

namespace RunnerRelease.Http.Url

open Text

variable {c a b : Char} {cs rest : List Char}

/-- The text begins with an octet that is spelled by a percent sign and two digits. -/
def BeginsOctet (cs : List Char) : Prop :=
  ∃ a b rest, cs = '%' :: a :: b :: rest ∧ (Json.hexValue? a).isSome ∧ (Json.hexValue? b).isSome

/-- No percent sign in the text spells an octet. -/
def Unspelled (cs : List Char) : Prop := ∀ rest, rest <:+ cs → ¬ BeginsOctet rest

theorem unspelled_nil : Unspelled [] := by
  rintro rest hrest ⟨a, b, later, rfl, -⟩
  cases List.suffix_nil.1 hrest

theorem unspelled_cons : Unspelled (c :: cs) ↔ ¬ BeginsOctet (c :: cs) ∧ Unspelled cs := by
  simp only [Unspelled, List.suffix_cons_iff, forall_eq_or_imp]

theorem hexValue?_digit :
    ∀ n < 16, Json.hexValue? ("0123456789ABCDEF".toList.getD n '0') = some n := by
  decide

/-- A hexadecimal digit need not be written with percent signs. -/
theorem not_isEncodedInPath_of_hexValue? (h : (Json.hexValue? c).isSome) :
    ¬ isEncodedInPath c := by
  have hall : ∀ n < 128, (Json.hexValue? (Char.ofNat n)).isSome →
      ¬ isEncodedInPath (Char.ofNat n) := by decide
  have hascii : c.toNat < 128 := by
    have hle (last : Char) (hlast : c ≤ last) : c.toNat ≤ last.toNat :=
      UInt32.le_iff_toNat_le.1 hlast
    rw [Json.hexValue?] at h
    split at h
    · rename_i hrange
      exact Nat.lt_of_le_of_lt (hle '9' hrange.2) (by decide)
    · split at h
      · rename_i hrange
        exact Nat.lt_of_le_of_lt (hle 'f' hrange.2) (by decide)
      · split at h
        · rename_i hrange
          exact Nat.lt_of_le_of_lt (hle 'F' hrange.2) (by decide)
        · cases h
  have hc := hall c.toNat hascii
  rw [Char.ofNat_toNat] at hc
  exact hc h

/-- An octet is read back as it was written. -/
theorem percentDecode_hexOctet_append (b : UInt8) (rest : List Char) :
    percentDecode ('%' :: hexOctet b.toNat ++ rest) = b :: percentDecode rest := by
  have hbound := b.toNat_lt
  have hhigh := hexValue?_digit (b.toNat / 16) (by omega)
  have hlow := hexValue?_digit (b.toNat % 16) (by omega)
  simp only [hexOctet, List.cons_append, List.nil_append, percentDecode, hhigh, hlow]
  rw [Nat.div_add_mod' b.toNat 16, UInt8.ofNat_toNat]

theorem toBytes_toString (c : Char) : toBytes c.toString = String.utf8EncodeChar c := by
  rw [toBytes_eq_flatMap]
  simp [Char.toString]

/-- A character written with percent signs is read back as its bytes. -/
theorem percentDecode_percentEncode_append (c : Char) (rest : List Char) :
    percentDecode (percentEncode c ++ rest) = String.utf8EncodeChar c ++ percentDecode rest := by
  have hbytes (bytes : Bytes) :
      percentDecode ((bytes.flatMap fun b => '%' :: hexOctet b.toNat) ++ rest) =
        bytes ++ percentDecode rest := by
    induction bytes with
    | nil => rfl
    | cons b bytes ih =>
        rw [List.flatMap_cons, List.append_assoc, percentDecode_hexOctet_append, ih,
          List.cons_append]
  rw [percentEncode, hbytes, toBytes_toString]

/-- A character that begins no octet is read as its bytes. -/
theorem percentDecode_cons (h : ¬ BeginsOctet (c :: cs)) :
    percentDecode (c :: cs) = String.utf8EncodeChar c ++ percentDecode cs := by
  rw [percentDecode.eq_def]
  split
  · rename_i heq
    cases heq
  · rename_i a b rest heq
    obtain ⟨rfl, rfl⟩ := List.cons.inj heq
    split
    · rename_i high low hhigh hlow
      exact absurd ⟨a, b, rest, rfl, by rw [hhigh]; rfl, by rw [hlow]; rfl⟩ h
    · rfl
  · rename_i heq
    obtain ⟨rfl, rfl⟩ := List.cons.inj heq
    rw [toBytes_toString]

/-- An octet that is spelled is read as a single byte. -/
theorem exists_percentDecode_octet (ha : (Json.hexValue? a).isSome)
    (hb : (Json.hexValue? b).isSome) (rest : List Char) :
    ∃ byte, percentDecode ('%' :: a :: b :: rest) = byte :: percentDecode rest := by
  obtain ⟨high, hhigh⟩ := Option.isSome_iff_exists.1 ha
  obtain ⟨low, hlow⟩ := Option.isSome_iff_exists.1 hb
  simp [percentDecode, hhigh, hlow]

theorem encodeWhere_cons (test : Char → Bool) (c : Char) (cs : List Char) :
    encodeWhere test (c :: cs) =
      (if test c then percentEncode c else [c]) ++ encodeWhere test cs :=
  List.flatMap_cons

theorem exists_percentEncode_eq (c : Char) : ∃ rest, percentEncode c = '%' :: rest := by
  rw [percentEncode, toBytes_toString]
  cases hbytes : String.utf8EncodeChar c with
  | nil => cases String.utf8EncodeChar_ne_nil hbytes
  | cons byte bytes => exact ⟨_, List.flatMap_cons⟩

/-- What is written for a text begins with a hexadecimal digit only where the text does. -/
theorem exists_of_encodeWhere_eq (h : encodeWhere isEncodedInPath cs = a :: rest)
    (ha : (Json.hexValue? a).isSome) :
    ∃ later, cs = a :: later ∧ encodeWhere isEncodedInPath later = rest := by
  cases cs with
  | nil => cases h
  | cons c later =>
      rw [encodeWhere_cons] at h
      split at h
      · obtain ⟨more, hmore⟩ := exists_percentEncode_eq c
        rw [hmore] at h
        obtain ⟨rfl, -⟩ := List.cons.inj h
        cases ha
      · obtain ⟨rfl, hrest⟩ := List.cons.inj h
        exact ⟨later, rfl, hrest⟩

/-- What is written for a character that begins no octet is read as its bytes. -/
theorem percentDecode_encodeWhere_cons (h : ¬ BeginsOctet (c :: cs)) :
    percentDecode (encodeWhere isEncodedInPath (c :: cs)) =
      String.utf8EncodeChar c ++ percentDecode (encodeWhere isEncodedInPath cs) := by
  rw [encodeWhere_cons]
  split
  · exact percentDecode_percentEncode_append c _
  · apply percentDecode_cons
    rintro ⟨a, b, rest, heq, ha, hb⟩
    obtain ⟨rfl, hrest⟩ := List.cons.inj heq
    obtain ⟨later, rfl, hlater⟩ := exists_of_encodeWhere_eq hrest ha
    obtain ⟨last, rfl, -⟩ := exists_of_encodeWhere_eq hlater hb
    exact h ⟨a, b, last, rfl, ha, hb⟩

/-- What is written for an octet that is spelled is read as a single byte. -/
theorem exists_percentDecode_encodeWhere (ha : (Json.hexValue? a).isSome)
    (hb : (Json.hexValue? b).isSome) (rest : List Char) :
    ∃ byte, percentDecode (encodeWhere isEncodedInPath ('%' :: a :: b :: rest)) =
      byte :: percentDecode (encodeWhere isEncodedInPath rest) := by
  obtain ⟨byte, hbyte⟩ := exists_percentDecode_octet ha hb (encodeWhere isEncodedInPath rest)
  refine ⟨byte, ?_⟩
  rw [← hbyte, encodeWhere_cons, encodeWhere_cons, encodeWhere_cons,
    if_neg (not_isEncodedInPath_of_hexValue? ha), if_neg (not_isEncodedInPath_of_hexValue? hb)]
  rfl

/-- A text that spells no octet is read back as its bytes. -/
theorem percentDecode_encodeWhere (h : Unspelled cs) :
    percentDecode (encodeWhere isEncodedInPath cs) = cs.flatMap String.utf8EncodeChar := by
  induction cs with
  | nil => rfl
  | cons c cs ih =>
      obtain ⟨hfirst, hrest⟩ := unspelled_cons.1 h
      rw [percentDecode_encodeWhere_cons hfirst, ih hrest, List.flatMap_cons]

/-- What is read back has no more bytes than the text, and as many only if no octet is spelled. -/
theorem length_percentDecode_encodeWhere_le (cs : List Char) :
    (percentDecode (encodeWhere isEncodedInPath cs)).length ≤ utf8Length cs ∧
      (utf8Length cs ≤ (percentDecode (encodeWhere isEncodedInPath cs)).length →
        Unspelled cs) := by
  -- the digits of an octet are skipped, so the induction is on the length
  induction hlength : cs.length using Nat.strongRecOn generalizing cs with
  | ind length ih =>
      cases cs with
      | nil => exact ⟨Nat.le_refl _, fun _ => unspelled_nil⟩
      | cons c cs =>
          by_cases hoctet : BeginsOctet (c :: cs)
          · obtain ⟨a, b, rest, heq, ha, hb⟩ := hoctet
            rw [heq] at hlength ⊢
            obtain ⟨byte, hbyte⟩ := exists_percentDecode_encodeWhere ha hb rest
            have hrest := (ih rest.length (by simp at hlength; omega) rest rfl).1
            have hfirst := a.utf8Size_pos
            have hsecond := b.utf8Size_pos
            rw [hbyte]
            simp only [List.length_cons, utf8Length_cons]
            omega
          · obtain ⟨hle, hunspelled⟩ := ih cs.length (by simp at hlength; omega) cs rfl
            rw [percentDecode_encodeWhere_cons hoctet, List.length_append,
              String.length_utf8EncodeChar, utf8Length_cons]
            constructor
            · exact Nat.add_le_add_left hle _
            · intro hge
              exact unspelled_cons.2 ⟨hoctet, hunspelled (Nat.le_of_add_le_add_left hge)⟩

end RunnerRelease.Http.Url
