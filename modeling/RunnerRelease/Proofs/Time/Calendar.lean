import RunnerRelease.Time.Calendar

/-!
# The numbering of days

The date of a day exists, and its number is that of the day.

## Implementation notes

The estimate of the year is right up to one because four hundred years have 146097 days and
the days before a year are off their mean by less than two years. Where the offset within a year or
a month lies is a fact about `locate` alone, for any lengths.
-/

namespace RunnerRelease.Date

theorem isLeap_iff (year : Int) :
    isLeap year = true ↔ year % 4 = 0 ∧ (year % 100 ≠ 0 ∨ year % 400 = 0) := by
  simp [isLeap]

/-- A year begins as many days after the one before as that has. -/
theorem daysBeforeYear_succ (year : Int) :
    daysBeforeYear (year + 1) = daysBeforeYear year + total (monthLengths year) := by
  have hlength : (total (monthLengths year) : Int) = if isLeap year then 366 else 365 := by
    cases h : isLeap year <;> simp [monthLengths, total, h]
  rw [hlength]
  by_cases h : isLeap year = true
  · rw [if_pos h]
    rw [isLeap_iff] at h
    simp only [daysBeforeYear]
    omega
  · rw [if_neg h]
    rw [isLeap_iff] at h
    simp only [daysBeforeYear]
    omega

/-- The days before a year are close to their mean. -/
theorem daysBeforeYear_bounds (year : Int) :
    146097 * year - 497 < 400 * daysBeforeYear year ∧
      400 * daysBeforeYear year < 146097 * year + 703 := by
  simp only [daysBeforeYear]
  omega

/-- The year that is found holds the day. -/
theorem yearOfDay_bounds (day : Int) :
    daysBeforeYear (yearOfDay day) ≤ day ∧ day < daysBeforeYear (yearOfDay day + 1) := by
  have hbefore := daysBeforeYear_bounds (400 * day / 146097 - 1)
  have hafter := daysBeforeYear_bounds (400 * day / 146097 + 2)
  have hlow : 146097 * (400 * day / 146097) ≤ 400 * day := by omega
  have hhigh : 400 * day < 146097 * (400 * day / 146097 + 1) := by omega
  rw [yearOfDay]
  generalize 400 * day / 146097 = guess at hbefore hafter hlow hhigh ⊢
  split
  · rw [Int.sub_add_cancel]
    constructor
    · omega
    · omega
  · split
    · have hnext : guess + 1 + 1 = guess + 2 := by omega
      rw [hnext]
      constructor
      · omega
      · omega
    · constructor
      · omega
      · omega

/-- Days that are next to each other lie in the same year or in years next to each other. -/
theorem yearOfDay_le_succ {a b : Int} (h : a ≤ b + 1) : yearOfDay a ≤ yearOfDay b + 1 := by
  have hfirst := (yearOfDay_bounds a).1
  have hlast := (yearOfDay_bounds b).2
  have hlow := (daysBeforeYear_bounds (yearOfDay a)).1
  have hhigh := (daysBeforeYear_bounds (yearOfDay b + 1)).2
  omega

/-- An offset that is less than all lengths together lies within one of them. -/
theorem locate_spec {lengths : List Nat} {offset : Nat} (h : offset < total lengths) :
    (locate lengths offset).1 < lengths.length ∧
      (locate lengths offset).2 < lengths.getD (locate lengths offset).1 0 ∧
      total (lengths.take (locate lengths offset).1) + (locate lengths offset).2 = offset := by
  induction lengths generalizing offset with
  | nil => exact absurd h (Nat.not_lt_zero _)
  | cons length rest ih =>
      rw [locate]
      split
      · rename_i hhere
        exact ⟨by simp, hhere, by simp [total]⟩
      · rename_i hlater
        have hrest : offset - length < total rest := by
          simp only [total, List.foldr_cons] at h ⊢
          omega
        obtain ⟨hindex, hinside, hsum⟩ := ih hrest
        refine ⟨by simpa using hindex, by simpa using hinside, ?_⟩
        simp only [total, List.take_succ_cons, List.foldr_cons] at hsum ⊢
        omega

/-- The month and the day that are found lie within the year. -/
theorem locate_ofDayNumber (number : Int) :
    let day := number + epochOffset
    let year := yearOfDay day
    let place := locate (monthLengths year) (day - daysBeforeYear year).toNat
    place.1 < 12 ∧ place.2 < (monthLengths year).getD place.1 0 ∧
      daysBeforeYear year + total ((monthLengths year).take place.1) + place.2 = day := by
  intro day year place
  have hyear : daysBeforeYear year ≤ day ∧ day < daysBeforeYear (year + 1) :=
    yearOfDay_bounds day
  rw [daysBeforeYear_succ year] at hyear
  have hoffset : (day - daysBeforeYear year).toNat < total (monthLengths year) := by omega
  have hplace : place.1 < 12 ∧ place.2 < (monthLengths year).getD place.1 0 ∧
      total ((monthLengths year).take place.1) + place.2 = (day - daysBeforeYear year).toNat :=
    locate_spec hoffset
  obtain ⟨hmonth, hday, hsum⟩ := hplace
  refine ⟨hmonth, hday, ?_⟩
  omega

/-- The date of a day exists. -/
theorem exists_ofDayNumber (number : Int) : (ofDayNumber number).Exists := by
  obtain ⟨hmonth, hday, -⟩ := locate_ofDayNumber number
  refine ⟨by simp [ofDayNumber], ?_, by simp [ofDayNumber], ?_⟩
  · simp only [ofDayNumber]
    omega
  · simp only [ofDayNumber, Nat.add_sub_cancel]
    omega

theorem Exists.day_le {d : Date} (h : d.Exists) : d.day ≤ 31 := by
  have hlengths : ∀ length ∈ monthLengths d.year, length ≤ 31 := by
    cases hleap : isLeap d.year <;> simp [monthLengths, hleap]
  have hday := h.2.2.2
  rw [List.getD_eq_getElem?_getD] at hday
  cases hlength : (monthLengths d.year)[d.month - 1]? with
  | none =>
      rw [hlength, Option.getD_none] at hday
      omega
  | some length =>
      rw [hlength, Option.getD_some] at hday
      have hbound := hlengths length (List.mem_of_getElem? hlength)
      omega

/-- The number of the date of a day is that of the day. -/
theorem toDayNumber_ofDayNumber (number : Int) : (ofDayNumber number).toDayNumber = number := by
  obtain ⟨-, -, hsum⟩ := locate_ofDayNumber number
  simp only [toDayNumber, ofDayNumber, Nat.add_sub_cancel]
  omega

end RunnerRelease.Date
