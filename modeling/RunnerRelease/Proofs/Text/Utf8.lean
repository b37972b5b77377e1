import RunnerRelease.Text.Utf8

/-!
# Text written as bytes

A text that is written as bytes is read back as it was, whatever characters it is made of.

## Implementation notes

Writing looks at the size of a code point, reading at the leading byte and at the range that it
sets for the byte after it. The ranges that exclude overlong forms and surrogates are narrower
than those of the other following bytes, so they are met by cases on the leading byte.
-/

namespace RunnerRelease.Text

/-- Bytes without malformed groups spell their characters. -/
theorem decode?_of_decodeGroups {bytes : Bytes} {cs : List Char}
    (h : decodeGroups bytes = cs.map some) : decode? bytes = some (String.ofList cs) := by
  have hall : (cs.map some).mapM id = some cs := by
    rw [List.mapM_map]
    exact (List.mapM_pure (l := cs) (f := id)).trans (congrArg some (List.map_id cs))
  rw [decode?, h, hall, Option.map_some]

theorem toList_loop (bytes : ByteArray) (index : Nat) (past : List UInt8) :
    ByteArray.toList.loop bytes index past = past.reverse ++ bytes.data.toList.drop index := by
  fun_induction ByteArray.toList.loop bytes index past with
  | case1 index past hlt ih =>
      have hindex : index < bytes.data.toList.length := hlt
      rw [ih, List.drop_eq_getElem_cons hindex]
      simp [ByteArray.get!, hlt]
  | case2 index past hge =>
      have hindex : bytes.data.toList.length ≤ index := Nat.le_of_not_lt hge
      rw [List.drop_eq_nil_of_le hindex, List.append_nil]

/-- A text is written character by character. -/
theorem toBytes_eq_flatMap (s : String) : toBytes s = s.toList.flatMap String.utf8EncodeChar := by
  have hlist (bytes : ByteArray) : bytes.toList = bytes.data.toList := by
    rw [ByteArray.toList, toList_loop]
    simp
  have hbytes : s.toByteArray = s.toList.utf8Encode := by
    rw [← String.toByteArray_ofList, String.ofList_toList]
  rw [toBytes, String.toUTF8, hlist, hbytes, List.utf8Encode, List.toList_data_toByteArray]

/-- A following byte in its range adds its six bits. -/
theorem followingBytes_ofNat {lo hi : UInt8} {n : Nat} (hlo : lo.toNat ≤ n + 128)
    (hhi : n + 128 ≤ hi.toNat) (bits : Nat) (ranges : List (UInt8 × UInt8)) (rest : Bytes) :
    followingBytes bits ((lo, hi) :: ranges) (UInt8.ofNat (n + 128) :: rest) =
      followingBytes (bits * 64 + n) ranges rest := by
  have hbound := hi.toNat_lt
  have hbyte : (UInt8.ofNat (n + 128)).toNat = n + 128 := by
    rw [UInt8.toNat_ofNat']
    omega
  have hrange : (lo ≤ UInt8.ofNat (n + 128) && UInt8.ofNat (n + 128) ≤ hi) = true := by
    simp only [Bool.and_eq_true, decide_eq_true_eq, UInt8.le_iff_toNat_le, hbyte]
    exact ⟨hlo, hhi⟩
  rw [followingBytes, if_pos hrange, hbyte, Nat.add_sub_cancel]

theorem decodeGroups_of_leadingByte {lead : UInt8} {bits n : Nat} {ranges : List (UInt8 × UInt8)}
    {bytes rest : Bytes} (hlead : leadingByte lead = some (bits, ranges))
    (hfollowing : followingBytes bits ranges bytes = (some n, rest)) :
    decodeGroups (lead :: bytes) = some (Char.ofNat n) :: decodeGroups rest := by
  rw [decodeGroups, hlead]
  simp only [hfollowing, Option.map_some]

/-- What the leading byte of two or more says, by its number. -/
theorem leadingByte_ofNat {n : Nat} (h : n < 256) :
    leadingByte (UInt8.ofNat n) =
      if n < 0x80 then some (n, [])
      else if 0xC2 ≤ n ∧ n ≤ 0xDF then some (n - 0xC0, [(0x80, 0xBF)])
      else if n = 0xE0 then some (0, [(0xA0, 0xBF), (0x80, 0xBF)])
      else if n = 0xED then some (0xD, [(0x80, 0x9F), (0x80, 0xBF)])
      else if 0xE1 ≤ n ∧ n ≤ 0xEF then some (n - 0xE0, [(0x80, 0xBF), (0x80, 0xBF)])
      else if n = 0xF0 then some (0, [(0x90, 0xBF), (0x80, 0xBF), (0x80, 0xBF)])
      else if 0xF1 ≤ n ∧ n ≤ 0xF3 then
        some (n - 0xF0, [(0x80, 0xBF), (0x80, 0xBF), (0x80, 0xBF)])
      else if n = 0xF4 then some (4, [(0x80, 0x8F), (0x80, 0xBF), (0x80, 0xBF)])
      else none := by
  have hbyte : (UInt8.ofNat n).toNat = n := by
    rw [UInt8.toNat_ofNat']
    omega
  simp [leadingByte, hbyte]

theorem decodeGroups_two {a m : Nat} (hlo : 2 ≤ a) (hhi : a < 32) (hm : m < 64) (rest : Bytes) :
    decodeGroups (UInt8.ofNat (a + 192) :: UInt8.ofNat (m + 128) :: rest) =
      some (Char.ofNat (a * 64 + m)) :: decodeGroups rest := by
  have hlead : leadingByte (UInt8.ofNat (a + 192)) = some (a, [(0x80, 0xBF)]) := by
    rw [leadingByte_ofNat (by omega), if_neg (by omega), if_pos (by omega), Nat.add_sub_cancel]
  apply decodeGroups_of_leadingByte hlead
  rw [followingBytes_ofNat (by simp) (by simp; omega), followingBytes]

/-- The leading byte of three excludes overlong forms and surrogates, and nothing else. -/
theorem exists_leadingByte_three {a b : Nat} (ha : a < 16) (hlo : a = 0 → 32 ≤ b)
    (hhi : a = 13 → b < 32) (hb : b < 64) :
    ∃ lo hi : UInt8, leadingByte (UInt8.ofNat (a + 224)) = some (a, [(lo, hi), (0x80, 0xBF)]) ∧
      lo.toNat ≤ b + 128 ∧ b + 128 ≤ hi.toNat := by
  rcases Nat.eq_zero_or_pos a with rfl | hpos
  · exact ⟨0xA0, 0xBF, rfl, by have := hlo rfl; simp; omega, by simp; omega⟩
  · by_cases hsurrogate : a = 13
    · subst hsurrogate
      exact ⟨0x80, 0x9F, rfl, by simp, by have := hhi rfl; simp; omega⟩
    · refine ⟨0x80, 0xBF, ?_, by simp, by simp; omega⟩
      rw [leadingByte_ofNat (by omega), if_neg (by omega), if_neg (by omega), if_neg (by omega),
        if_neg (by omega), if_pos (by omega), Nat.add_sub_cancel]

theorem decodeGroups_three {a b m : Nat} (ha : a < 16) (hlo : a = 0 → 32 ≤ b)
    (hhi : a = 13 → b < 32) (hb : b < 64) (hm : m < 64) (rest : Bytes) :
    decodeGroups (UInt8.ofNat (a + 224) :: UInt8.ofNat (b + 128) :: UInt8.ofNat (m + 128) ::
        rest) =
      some (Char.ofNat ((a * 64 + b) * 64 + m)) :: decodeGroups rest := by
  obtain ⟨lo, hi, hlead, hfrom, hto⟩ := exists_leadingByte_three ha hlo hhi hb
  apply decodeGroups_of_leadingByte hlead
  rw [followingBytes_ofNat hfrom hto, followingBytes_ofNat (by simp) (by simp; omega),
    followingBytes]

/-- The leading byte of four excludes overlong forms and what is above the last code point. -/
theorem exists_leadingByte_four {a b : Nat} (ha : a < 5) (hlo : a = 0 → 16 ≤ b)
    (hhi : a = 4 → b < 16) (hb : b < 64) :
    ∃ lo hi : UInt8, leadingByte (UInt8.ofNat (a + 240)) =
        some (a, [(lo, hi), (0x80, 0xBF), (0x80, 0xBF)]) ∧
      lo.toNat ≤ b + 128 ∧ b + 128 ≤ hi.toNat := by
  rcases Nat.eq_zero_or_pos a with rfl | hpos
  · exact ⟨0x90, 0xBF, rfl, by have := hlo rfl; simp; omega, by simp; omega⟩
  · by_cases hlast : a = 4
    · subst hlast
      exact ⟨0x80, 0x8F, rfl, by simp, by have := hhi rfl; simp; omega⟩
    · refine ⟨0x80, 0xBF, ?_, by simp, by simp; omega⟩
      rw [leadingByte_ofNat (by omega), if_neg (by omega), if_neg (by omega), if_neg (by omega),
        if_neg (by omega), if_neg (by omega), if_neg (by omega), if_pos (by omega),
        Nat.add_sub_cancel]

theorem decodeGroups_four {a b d m : Nat} (ha : a < 5) (hlo : a = 0 → 16 ≤ b)
    (hhi : a = 4 → b < 16) (hb : b < 64) (hd : d < 64) (hm : m < 64) (rest : Bytes) :
    decodeGroups (UInt8.ofNat (a + 240) :: UInt8.ofNat (b + 128) :: UInt8.ofNat (d + 128) ::
        UInt8.ofNat (m + 128) :: rest) =
      some (Char.ofNat (((a * 64 + b) * 64 + d) * 64 + m)) :: decodeGroups rest := by
  obtain ⟨lo, hi, hlead, hfrom, hto⟩ := exists_leadingByte_four ha hlo hhi hb
  apply decodeGroups_of_leadingByte hlead
  rw [followingBytes_ofNat hfrom hto, followingBytes_ofNat (by simp) (by simp; omega),
    followingBytes_ofNat (by simp) (by simp; omega), followingBytes]

/-- The bytes of a character are read as that character. -/
theorem decodeGroups_utf8EncodeChar_append (c : Char) (rest : Bytes) :
    decodeGroups (String.utf8EncodeChar c ++ rest) = some c :: decodeGroups rest := by
  have hvalid : c.val.toNat < 0xD800 ∨ 0xDFFF < c.val.toNat ∧ c.val.toNat < 0x110000 := c.valid
  have hread (n : Nat) (hn : n = c.val.toNat) : c = Char.ofNat n := by
    rw [hn]
    exact (Char.ofNat_toNat c).symm
  rw [String.utf8EncodeChar]
  generalize c.val.toNat = v at hvalid hread
  split
  · have hlead : leadingByte (UInt8.ofNat v) = some (v, []) := by
      rw [leadingByte_ofNat (by omega), if_pos (by omega)]
    rw [hread v rfl]
    exact decodeGroups_of_leadingByte hlead rfl
  · split
    · rw [hread (v / 64 % 32 * 64 + v % 64) (by omega)]
      exact decodeGroups_two (by omega) (by omega) (by omega) rest
    · split
      · rw [hread ((v / 4096 % 16 * 64 + v / 64 % 64) * 64 + v % 64) (by omega)]
        exact decodeGroups_three (by omega) (by omega) (by omega) (by omega) (by omega) rest
      · rw [hread (((v / 262144 % 8 * 64 + v / 4096 % 64) * 64 + v / 64 % 64) * 64 + v % 64)
          (by omega)]
        exact decodeGroups_four (by omega) (by omega) (by omega) (by omega) (by omega)
          (by omega) rest

theorem decodeGroups_flatMap (cs : List Char) :
    decodeGroups (cs.flatMap String.utf8EncodeChar) = cs.map some := by
  induction cs with
  | nil => rw [List.flatMap_nil, decodeGroups, List.map_nil]
  | cons c rest ih =>
      rw [List.flatMap_cons, decodeGroups_utf8EncodeChar_append, ih, List.map_cons]

/-- The bytes of a text spell the text. -/
theorem decode?_toBytes (s : String) : decode? (toBytes s) = some s := by
  rw [toBytes_eq_flatMap, decode?_of_decodeGroups (decodeGroups_flatMap s.toList),
    String.ofList_toList]

theorem toBytes_injective : Function.Injective toBytes := by
  intro s t h
  have hread := congrArg decode? h
  rw [decode?_toBytes, decode?_toBytes] at hread
  exact Option.some.inj hread

@[simp] theorem utf8Length_nil : utf8Length [] = 0 := rfl

@[simp] theorem utf8Length_cons (c : Char) (cs : List Char) :
    utf8Length (c :: cs) = c.utf8Size + utf8Length cs := rfl

/-- The bytes of characters are counted without writing them. -/
theorem length_flatMap_utf8EncodeChar (cs : List Char) :
    (cs.flatMap String.utf8EncodeChar).length = utf8Length cs := by
  induction cs with
  | nil => rfl
  | cons c rest ih =>
      rw [List.flatMap_cons, List.length_append, String.length_utf8EncodeChar, ih, utf8Length_cons]

theorem utf8Length_append (cs more : List Char) :
    utf8Length (cs ++ more) = utf8Length cs + utf8Length more := by
  rw [← length_flatMap_utf8EncodeChar, List.flatMap_append, List.length_append,
    length_flatMap_utf8EncodeChar, length_flatMap_utf8EncodeChar]

/-- Fewer characters have no more bytes. -/
theorem utf8Length_le_of_sublist {cs all : List Char} (h : cs.Sublist all) :
    utf8Length cs ≤ utf8Length all := by
  induction h with
  | slnil => exact Nat.le_refl _
  | cons c _ ih => exact Nat.le_trans ih (Nat.le_add_left _ _)
  | cons_cons c _ ih => exact Nat.add_le_add_left ih c.utf8Size

end RunnerRelease.Text
