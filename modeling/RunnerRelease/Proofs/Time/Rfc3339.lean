import Mathlib.Algebra.BigOperators.Group.Finset.Basic
import RunnerRelease.Proofs.Time.Calendar
import RunnerRelease.Time.Rfc3339

/-!
# Timestamps and what they denote

The same second can be spelled in many ways: with any offset from universal time, with one of
three separators and with a fraction of any number of digits. Each of these texts is read as the
second that it shows, and as the first nine digits of its fraction. What is written for an instant
is one of them, the one in universal time without a fraction; a leap second is written as second
60 and stays one. The timestamp of a year that does not have four digits is refused.

## Implementation notes

Each field is read off the front of the text, whatever follows, by a lemma about the reader of
that field; `parse_fields` goes through the text with them. A clock with an offset shows what a
clock of universal time shows at another instant, `Instant.shown`, so the calendar is left only in
`instant_shown`, and with integers only.
-/

namespace RunnerRelease

namespace Text

theorem digit?_digitOf (n : Nat) : digit? (digitOf n) = some (n % 10) := by
  have hdigit : ∀ d < 10, digit? (Char.ofNat (48 + d)) = some d := by decide
  exact hdigit (n % 10) (Nat.mod_lt n (by decide))

@[simp] theorem length_fixedDigits (width n : Nat) : (fixedDigits width n).length = width := by
  induction width generalizing n with
  | zero => rfl
  | succ width ih => rw [fixedDigits, List.length_append, ih, List.length_singleton]

theorem le_length_paddedDigits (width n : Nat) : width ≤ (paddedDigits width n).length := by
  rw [paddedDigits, List.length_append, List.length_replicate]
  omega

/-- Characters take at least one byte each. -/
theorem length_le_utf8Length (cs : List Char) : cs.length ≤ utf8Length cs := by
  induction cs with
  | nil => exact Nat.le_refl 0
  | cons c rest ih =>
      have hsize := c.utf8Size_pos
      simp only [utf8Length, List.foldr_cons, List.length_cons] at ih ⊢
      omega

/-- The characters of digits. -/
def digitChars (digits : List (Fin 10)) : List Char := digits.map fun d : Fin 10 => digitOf d.val

theorem digitChars_cons (d : Fin 10) (digits : List (Fin 10)) :
    digitChars (d :: digits) = digitOf d.val :: digitChars digits := rfl

/-- The number that so many digits make, with zeros in place of those that are missing. -/
def decimals (count : Nat) (digits : List (Fin 10)) : Nat :=
  ∑ i ∈ Finset.range count, digits[i]?.elim 0 Fin.val * 10 ^ (count - 1 - i)

@[simp] theorem decimals_nil (count : Nat) : decimals count [] = 0 := by
  simp [decimals]

theorem decimals_cons (count : Nat) (d : Fin 10) (digits : List (Fin 10)) :
    decimals (count + 1) (d :: digits) = d.val * 10 ^ count + decimals count digits := by
  rw [decimals, Finset.sum_range_succ', Nat.add_comm, decimals]
  congr 1
  apply Finset.sum_congr rfl
  intro i _
  have hplace : count + 1 - 1 - (i + 1) = count - 1 - i := by omega
  rw [List.getElem?_cons_succ, hplace]

theorem decimals_lt (count : Nat) (digits : List (Fin 10)) :
    decimals count digits < 10 ^ count := by
  induction digits generalizing count with
  | nil =>
      rw [decimals_nil]
      exact Nat.pow_pos (by decide)
  | cons d digits ih =>
      cases count with
      | zero => simp [decimals]
      | succ count =>
          have hrest := ih count
          have hdigit : d.val * 10 ^ count ≤ 9 * 10 ^ count :=
            Nat.mul_le_mul_right _ (Nat.le_of_lt_succ d.isLt)
          rw [decimals_cons, Nat.pow_succ]
          omega

end Text

namespace Instant

/-- What a clock with the given offset in minutes shows, as if it were universal time. -/
def shown (t : Instant) (offset : Int) : Instant where
  seconds := t.seconds + 60 * offset
  nanos := t.nanos
  nanos_lt := t.nanos_lt
  leap_second := by
    intro hleap
    have hlast := t.leap_second hleap
    omega

@[simp] theorem shown_zero (t : Instant) : t.shown 0 = t := by
  simp [shown]

/-- The instant so many nanoseconds after the beginning of the second in which an instant lies. -/
def within (t : Instant) (nanos : Fin 1000000000) : Instant where
  seconds := t.seconds
  nanos := (if t.isLeap then 1000000000 else 0) + nanos
  nanos_lt := by
    split <;> omega
  leap_second := by
    intro hleap
    split at hleap
    · rename_i hsecond
      exact t.leap_second (of_decide_eq_true hsecond)
    · omega

/-- Clocks whose offset is less than a day show the same year or one next to it. -/
theorem year_shown (t : Instant) {offset : Int} (h : -1440 < offset ∧ offset < 1440) :
    t.date.year ≤ (t.shown offset).date.year + 1 ∧
      (t.shown offset).date.year ≤ t.date.year + 1 := by
  have hdays : t.dayNumber ≤ (t.shown offset).dayNumber + 1 ∧
      (t.shown offset).dayNumber ≤ t.dayNumber + 1 := by
    simp only [dayNumber, shown, secondsPerDay]
    omega
  constructor
  · exact Date.yearOfDay_le_succ (by omega)
  · exact Date.yearOfDay_le_succ (by omega)

theorem within_zero (t : Instant) : t.within 0 = t.truncate := by
  by_cases hleap : 1000000000 ≤ t.nanos
  · simp [within, truncate, isLeap, hleap]
  · simp [within, truncate, isLeap, hleap]

end Instant

namespace Rfc3339

open Text

/-- Digits are read one part after the other. -/
theorem number_add (first rest value : Nat) (cs : List Char) :
    number (first + rest) value cs =
      (number first value cs).bind fun result => number rest result.1 result.2 := by
  induction first generalizing value cs with
  | zero => rw [Nat.zero_add, number, Except.bind]
  | succ first ih =>
      rw [Nat.succ_add]
      cases cs with
      | nil => rfl
      | cons c cs =>
          rw [number, number]
          cases digit? c with
          | none => rfl
          | some d => exact ih (value * 10 + d) cs

/-- Digits that are written are read as the number of which they are the last digits. -/
theorem number_fixedDigits (width value n : Nat) (rest : List Char) :
    number width value (fixedDigits width n ++ rest) =
      .ok (value * 10 ^ width + n % 10 ^ width, rest) := by
  induction width generalizing n rest with
  | zero => simp [fixedDigits, number, Nat.mod_one]
  | succ width ih =>
      have hpower : n % (10 ^ width * 10) = n / 10 % 10 ^ width * 10 + n % 10 := by
        rw [Nat.mul_comm, Nat.mod_mul, Nat.add_comm, Nat.mul_comm]
      rw [fixedDigits, List.append_assoc, number_add, ih, Nat.pow_succ, hpower, ← Nat.mul_assoc]
      simp only [Except.bind, List.singleton_append, number, digit?_digitOf]
      congr 2
      omega

theorem number_of_lt {width n : Nat} (h : n < 10 ^ width) (rest : List Char) :
    number width 0 (fixedDigits width n ++ rest) = .ok (n, rest) := by
  rw [number_fixedDigits, Nat.zero_mul, Nat.zero_add, Nat.mod_eq_of_lt h]

/-- A date that is written is read as it is. -/
theorem date_of_exists {year month day : Nat} (h : (⟨year, month, day⟩ : Date).Exists)
    (hyear : year < 10 ^ 4) (hmonth : month < 10 ^ 2) (hday : day < 10 ^ 2) (rest : List Char) :
    date (fixedDigits 4 year ++ '-' :: (fixedDigits 2 month ++ '-' ::
        (fixedDigits 2 day ++ rest))) = .ok (⟨year, month, day⟩, rest) := by
  simp only [date, number_of_lt hyear, number_of_lt hmonth, number_of_lt hday, oneOf, bind,
    Except.bind, pure, Except.pure, List.contains_cons, BEq.rfl, Bool.true_or, if_true, if_pos h]

/-- The first digit that is read counts as much as all that can follow it and one more. -/
theorem fractionDigits_append (count : Nat) (digits : List (Fin 10)) {rest : List Char}
    (hrest : ∀ c ∈ rest.head?, digit? c = none) :
    fractionDigits (10 ^ count / 10) (digitChars digits ++ rest) =
      (decimals count digits, rest) := by
  induction digits generalizing count with
  | nil =>
      rw [decimals_nil]
      cases rest with
      | nil => rfl
      | cons c cs =>
          have hstop : digit? c = none := hrest c rfl
          rw [digitChars, List.map_nil, List.nil_append, fractionDigits, hstop]
  | cons d digits ih =>
      have hdigit : digit? (digitOf d.val) = some d.val := by
        rw [digit?_digitOf, Nat.mod_eq_of_lt d.isLt]
      rw [digitChars_cons, List.cons_append, fractionDigits, hdigit]
      cases count with
      | zero =>
          -- Behind the last digit that counts the unit is zero and stays so.
          have hnone (later : List (Fin 10)) : decimals 0 later = 0 := rfl
          have hnext : fractionDigits 0 (digitChars digits ++ rest) = (0, rest) := ih 0
          have hunit : 10 ^ 0 / 10 = 0 := rfl
          rw [hnone, hunit, Nat.zero_div, hnext]
          rfl
      | succ count =>
          have hunit : 10 ^ (count + 1) / 10 = 10 ^ count := by
            rw [Nat.pow_succ, Nat.mul_div_cancel _ (by decide)]
          rw [decimals_cons, hunit, ih count]

/-- The characters of a fraction of a second, which is left out when it has no digits. -/
def fractionChars : List (Fin 10) → List Char
  | [] => []
  | d :: digits => '.' :: digitChars (d :: digits)

/-- A fraction of any length is read as nine digits. -/
theorem fraction_fractionChars (digits : List (Fin 10)) {rest : List Char}
    (hrest : ∀ c ∈ rest.head?, digit? c = none ∧ c ≠ '.') :
    fraction (fractionChars digits ++ rest) = .ok (decimals 9 digits, rest) := by
  cases digits with
  | nil =>
      rw [fractionChars, List.nil_append, decimals_nil]
      cases rest with
      | nil => rfl
      | cons c cs =>
          have hpoint : c ≠ '.' := (hrest c rfl).2
          rw [fraction]
          · intro hlast
            exact hpoint (List.cons.inj hlast).1
          · intro first others hmore
            exact hpoint (List.cons.inj hmore).1
  | cons d digits =>
      have hread := fractionDigits_append 9 (d :: digits) fun c hc => (hrest c hc).1
      have hdigit : (digit? (digitOf d.val)).isSome = true := by
        rw [digit?_digitOf, Option.isSome_some]
      rw [fractionChars, digitChars_cons, List.cons_append, List.cons_append, fraction,
        if_pos hdigit]
      exact congrArg Except.ok hread

/-- A time of day that is written is read as it is, with the fraction after it. -/
theorem clockTime_of_le {hour minute second nanos : Nat} {cs rest : List Char}
    (hhour : hour ≤ 23) (hminute : minute ≤ 59) (hsecond : second ≤ 60)
    (hfraction : fraction cs = .ok (nanos, rest)) :
    clockTime (fixedDigits 2 hour ++ ':' :: (fixedDigits 2 minute ++ ':' ::
        (fixedDigits 2 second ++ cs))) = .ok (⟨hour, minute, second, nanos⟩, rest) := by
  have hhour' : hour < 10 ^ 2 := by omega
  have hminute' : minute < 10 ^ 2 := by omega
  have hsecond' : second < 10 ^ 2 := by omega
  simp only [clockTime, number_of_lt hhour', number_of_lt hminute', number_of_lt hsecond', oneOf,
    bind, Except.bind, pure, Except.pure, List.contains_cons, BEq.rfl, Bool.true_or, if_true,
    hfraction, if_pos (And.intro hhour (And.intro hminute hsecond))]

/-- An offset from universal time that is less than a day, and the sign that stands before it. -/
structure Zone where
  /-- Minutes by which the clocks are ahead of universal time. -/
  offset : Int
  sign : Char
  neg_day_lt : -1440 < offset
  lt_day : offset < 1440
  sign_spec : sign = '+' ∧ 0 ≤ offset ∨ (sign = '-' ∨ sign = '−') ∧ offset ≤ 0

/-- The characters of an offset. -/
def Zone.chars (zone : Zone) : List Char :=
  zone.sign :: (fixedDigits 2 (zone.offset.natAbs / 60) ++ ':' ::
    fixedDigits 2 (zone.offset.natAbs % 60))

theorem offsetPart_of_lt {n : Nat} (h : n < 10 ^ 2) (rest : List Char) :
    offsetPart (fixedDigits 2 n ++ rest) = .ok (n, rest) := by
  have hlong : ¬ utf8Length (fixedDigits 2 n ++ rest) < 2 := by
    have hbytes := length_le_utf8Length (fixedDigits 2 n ++ rest)
    rw [List.length_append, length_fixedDigits] at hbytes
    omega
  rw [offsetPart, if_neg hlong, number_of_lt h]

theorem Zone.sign_mem (zone : Zone) :
    zone.sign = '+' ∨ zone.sign = '-' ∨ zone.sign = '−' := by
  rcases zone.sign_spec with ⟨hplus, -⟩ | ⟨hminus, -⟩
  · exact .inl hplus
  · exact .inr hminus

/-- The offset is its size in hours and minutes with its sign; a size of zero may have either. -/
theorem Zone.signed_size (zone : Zone) :
    (if zone.sign = '+'
      then ((zone.offset.natAbs / 60 : Nat) : Int) * 60 + (zone.offset.natAbs % 60 : Nat)
      else -(((zone.offset.natAbs / 60 : Nat) : Int) * 60 + (zone.offset.natAbs % 60 : Nat))) =
        zone.offset := by
  rcases zone.sign_spec with ⟨hplus, hsize⟩ | ⟨hminus, hsize⟩
  · rw [if_pos hplus]
    omega
  · have hplus : zone.sign ≠ '+' := by
      rcases hminus with hsign | hsign
      all_goals
        rw [hsign]
        decide
    rw [if_neg hplus]
    omega

/-- An offset that is written is read as it is. -/
theorem Zone.offset_chars (zone : Zone) : Rfc3339.offset zone.chars = .ok (zone.offset, []) := by
  have hlow := zone.neg_day_lt
  have hhigh := zone.lt_day
  have hhours := offsetPart_of_lt (n := zone.offset.natAbs / 60) (by omega)
    (':' :: fixedDigits 2 (zone.offset.natAbs % 60))
  have hminutes := offsetPart_of_lt (n := zone.offset.natAbs % 60) (by omega) []
  rw [List.append_nil] at hminutes
  have hle : zone.offset.natAbs % 60 ≤ 59 := by omega
  have hneither : ¬ (zone.sign = 'Z' ∨ zone.sign = 'z') := by
    rcases zone.sign_mem with hsign | hsign | hsign
    all_goals
      rw [hsign]
      decide
  rw [Zone.chars, Rfc3339.offset, if_neg hneither, if_pos zone.sign_mem, hhours]
  simp only [oneOf, bind, Except.bind, pure, Except.pure, List.contains_cons, BEq.rfl,
    Bool.true_or, if_true, hminutes, if_pos hle, zone.signed_size]

/-- A way to spell a second and a fraction of it; without a zone, in universal time. -/
structure Spelling where
  separator : Char
  digits : List (Fin 10)
  zone : Option Zone
  separator_mem : separator ∈ ['T', 't', ' ']

namespace Spelling

/-- The offset of a spelling from universal time, in minutes. -/
def offset (s : Spelling) : Int := s.zone.elim 0 Zone.offset

/-- The characters of the offset of a spelling. -/
def zoneChars (s : Spelling) : List Char := s.zone.elim ['Z'] Zone.chars

/-- The nanoseconds of a fraction, whose digits after the ninth do not count. -/
def nanos (s : Spelling) : Fin 1000000000 := ⟨decimals 9 s.digits, decimals_lt 9 s.digits⟩

/-- The characters with which a spelling shows the second in which an instant lies. -/
def chars (s : Spelling) (t : Instant) : List Char :=
  let clock := t.shown s.offset
  let second := clock.secondOfDay
  yearChars clock.date.year ++ '-' :: (fixedDigits 2 clock.date.month ++ '-' ::
    (fixedDigits 2 clock.date.day ++ s.separator :: (fixedDigits 2 (second / 3600) ++ ':' ::
      (fixedDigits 2 (second / 60 % 60) ++ ':' ::
        (fixedDigits 2 (second % 60 + if t.isLeap then 1 else 0) ++
          (fractionChars s.digits ++ s.zoneChars))))))

/-- The timestamp of the second in which an instant lies, as clocks in the zone show it. -/
def text (s : Spelling) (t : Instant) : String := .ofList (s.chars t)

theorem offset_zoneChars (s : Spelling) :
    Rfc3339.offset s.zoneChars = .ok (s.offset, []) := by
  obtain ⟨separator, digits, zone, _⟩ := s
  cases zone with
  | none => rfl
  | some zone => exact zone.offset_chars

theorem offset_lt_day (s : Spelling) : -1440 < s.offset ∧ s.offset < 1440 := by
  obtain ⟨separator, digits, zone, _⟩ := s
  cases zone with
  | none =>
      change -1440 < (0 : Int) ∧ (0 : Int) < 1440
      decide
  | some zone => exact ⟨zone.neg_day_lt, zone.lt_day⟩

/-- The offset begins with neither a digit nor a point. -/
theorem head?_zoneChars (s : Spelling) : ∀ c ∈ s.zoneChars.head?, digit? c = none ∧ c ≠ '.' := by
  obtain ⟨separator, digits, zone, _⟩ := s
  intro c hc
  cases zone with
  | none =>
      obtain rfl : 'Z' = c := Option.some.inj hc
      exact ⟨by decide, by decide⟩
  | some zone =>
      obtain rfl : zone.sign = c := Option.some.inj hc
      rcases zone.sign_mem with hsign | hsign | hsign
      all_goals
        rw [hsign]
        exact ⟨by decide, by decide⟩

end Spelling

/-- A timestamp is read as the instant that its fields denote. -/
theorem parse_fields {year month day hour minute second nanos : Nat} {offset : Int}
    {separator : Char} {cs zone : List Char} (hdate : (⟨year, month, day⟩ : Date).Exists)
    (hyear : year < 10 ^ 4) (hseparator : separator ∈ ['T', 't', ' ']) (hhour : hour ≤ 23)
    (hminute : minute ≤ 59) (hsecond : second ≤ 60) (hfraction : fraction cs = .ok (nanos, zone))
    (hzone : Rfc3339.offset zone = .ok (offset, [])) (hoffset : -1440 < offset ∧ offset < 1440) :
    parse (.ofList (fixedDigits 4 year ++ '-' :: (fixedDigits 2 month ++ '-' ::
        (fixedDigits 2 day ++ separator :: (fixedDigits 2 hour ++ ':' ::
          (fixedDigits 2 minute ++ ':' :: (fixedDigits 2 second ++ cs))))))) =
      .ok (instant ⟨year, month, day⟩ ⟨hour, minute, second, nanos⟩ offset) := by
  have hmonth : month ≤ 12 := hdate.2.1
  have hday : day ≤ 31 := hdate.day_le
  have hlong (text : List Char) (hlength : 19 ≤ text.length) : ¬ utf8Length text < 19 := by
    have hbytes := length_le_utf8Length text
    omega
  have hread := date_of_exists hdate hyear (by omega) (by omega)
    (separator :: (fixedDigits 2 hour ++ ':' ::
      (fixedDigits 2 minute ++ ':' :: (fixedDigits 2 second ++ cs))))
  have hclock := clockTime_of_le hhour hminute hsecond hfraction
  have hcontains : ['T', 't', ' '].contains separator = true := List.elem_eq_true_of_mem hseparator
  rw [parse, String.toList_ofList, if_neg (hlong _ (by simp; omega)), hread]
  simp only [bind, Except.bind, pure, Except.pure, oneOf, if_pos hcontains, hclock, hzone,
    List.isEmpty_nil, Bool.not_true, Bool.false_eq_true, if_false, if_pos hoffset]

/-- The date and the clock face that are shown with an offset denote the instant. -/
theorem instant_shown (t : Instant) (offset : Int) (nanos : Fin 1000000000) :
    let clock := t.shown offset
    instant clock.date ⟨clock.secondOfDay / 3600, clock.secondOfDay / 60 % 60,
      clock.secondOfDay % 60 + if t.isLeap then 1 else 0, nanos⟩ offset = t.within nanos := by
  intro clock
  have hday : clock.date.toDayNumber = clock.seconds / 86400 := Date.toDayNumber_ofDayNumber _
  have hsecond : (clock.secondOfDay : Int) = clock.seconds % 86400 := by
    rw [Instant.secondOfDay, secondsPerDay]
    omega
  have hshown : clock.seconds = t.seconds + 60 * offset := rfl
  have hnanos : nanos.val % 1000000000 = nanos.val := Nat.mod_eq_of_lt nanos.isLt
  -- Offsets are whole minutes, so the second of the minute is shown as it is.
  by_cases hleap : t.isLeap = true
  · have hlast := t.leap_second (of_decide_eq_true hleap)
    have hsixty : clock.secondOfDay % 60 + 1 = 60 := by omega
    simp only [instant, Instant.within, hleap, if_true, hsixty, hday, hnanos,
      Instant.mk.injEq]
    exact ⟨by omega, trivial⟩
  · have hface : clock.secondOfDay % 60 ≠ 60 := by omega
    simp only [instant, Instant.within, hleap, Bool.false_eq_true, if_false, Nat.add_zero,
      Nat.zero_add, hface, hday, hnanos, Instant.mk.injEq]
    exact ⟨by omega, trivial⟩

/-- A spelling is read as what it spells, if the clock that it shows has a year of four digits. -/
theorem parse_text (s : Spelling) {t : Instant}
    (h : 0 ≤ (t.shown s.offset).date.year ∧ (t.shown s.offset).date.year ≤ 9999) :
    parse (s.text t) = .ok (t.within s.nanos) := by
  have hinstant := instant_shown t s.offset s.nanos
  rw [Spelling.text, Spelling.chars]
  generalize t.shown s.offset = clock at h hinstant ⊢
  have hsecond : clock.secondOfDay < 86400 := by
    rw [Instant.secondOfDay, secondsPerDay]
    omega
  have hhour : clock.secondOfDay / 3600 ≤ 23 := by omega
  have hminute : clock.secondOfDay / 60 % 60 ≤ 59 := by omega
  have hface : clock.secondOfDay % 60 + (if t.isLeap then 1 else 0) ≤ 60 := by
    split <;> omega
  have hdate : (⟨clock.date.year.toNat, clock.date.month, clock.date.day⟩ : Date) = clock.date := by
    rw [Int.toNat_of_nonneg h.1]
  have hexists : (⟨clock.date.year.toNat, clock.date.month, clock.date.day⟩ : Date).Exists := by
    rw [hdate]
    exact Date.exists_ofDayNumber clock.dayNumber
  have hread := parse_fields hexists (by omega) s.separator_mem hhour hminute hface
    (fraction_fractionChars s.digits s.head?_zoneChars) s.offset_zoneChars s.offset_lt_day
  rw [hdate] at hread
  rw [yearChars, if_pos h]
  exact hread.trans (congrArg Except.ok hinstant)

/-- In all years but the first and the last with four digits, every spelling is read. -/
theorem parse_text_of_year (s : Spelling) {t : Instant}
    (hyear : 1 ≤ t.date.year ∧ t.date.year ≤ 9998) : parse (s.text t) = .ok (t.within s.nanos) := by
  have hshown := t.year_shown s.offset_lt_day
  apply parse_text
  constructor
  · omega
  · omega

/-- What is written for an instant is the spelling in universal time without a fraction. -/
theorem render_eq_text (t : Instant) :
    render t = Spelling.text ⟨'T', [], none, by simp⟩ t := by
  simp [render, chars, Spelling.text, Spelling.chars, Spelling.offset, Spelling.zoneChars,
    fractionChars]

/-- A timestamp that is written is read as the instant without its fraction of a second. -/
theorem parse_render {t : Instant} (h : 0 ≤ t.date.year ∧ t.date.year ≤ 9999) :
    parse (render t) = .ok t.truncate := by
  rw [render_eq_text, parse_text]
  · exact congrArg Except.ok t.within_zero
  · change 0 ≤ (t.shown 0).date.year ∧ (t.shown 0).date.year ≤ 9999
    rw [Instant.shown_zero]
    exact h

/-- A timestamp of a year that does not have four digits begins with a sign and is refused. -/
theorem parse_render_of_signed {t : Instant} (h : ¬ (0 ≤ t.date.year ∧ t.date.year ≤ 9999)) :
    parse (render t) = .error .invalid := by
  obtain ⟨sign, digits, hyear, hsign, hdigits⟩ : ∃ sign digits,
      yearChars t.date.year = sign :: digits ∧ digit? sign = none ∧ 4 ≤ digits.length := by
    refine ⟨_, _, by rw [yearChars, if_neg h], ?_, le_length_paddedDigits 4 _⟩
    split <;> decide
  have hlong : ¬ utf8Length (chars t) < 19 := by
    have hbytes := length_le_utf8Length (chars t)
    have hlength : 19 ≤ (chars t).length := by
      simp only [chars, hyear, List.length_append, List.length_cons, List.length_nil,
        length_fixedDigits]
      omega
    omega
  have hdate : date (chars t) = .error .invalid := by
    simp only [chars, hyear, date, List.cons_append, number, hsign, bind, Except.bind]
  rw [parse, render, String.toList_ofList, if_neg hlong, hdate]
  rfl

end Rfc3339

end RunnerRelease
