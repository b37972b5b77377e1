import Mathlib.Data.List.DropRight
import RunnerRelease.Text.Blank

/-!
# Trimmed texts

What remains of a text when it is trimmed is the one part of it that neither begins nor ends with
a blank character, while all that is before and after it is blank.

## Implementation notes

`Trims` does not say how the text is found, so that one text has one trimmed text takes a proof:
blank characters at the ends are dropped, and what has none there is left as it is.
-/

namespace RunnerRelease.Text

variable {cs trimmed before after : List Char}

/-- All characters of a text are blank. -/
def IsBlank (cs : List Char) : Prop := ∀ c ∈ cs, isBlank c = true

/-- A text with blank characters around it, while it has none at its own ends. -/
structure Trims (cs trimmed : List Char) : Prop where
  framed : ∃ before after, cs = before ++ (trimmed ++ after) ∧ IsBlank before ∧ IsBlank after
  head : ∀ c ∈ trimmed.head?, isBlank c = false
  last : ∀ c ∈ trimmed.getLast?, isBlank c = false

/-- Trimming drops from the left, then from the right. -/
theorem trimChars_eq (cs : List Char) :
    trimChars cs = (cs.dropWhile isBlank).rdropWhile isBlank := rfl

theorem dropWhile_of_isBlank (h : IsBlank cs) : cs.dropWhile isBlank = [] :=
  List.dropWhile_eq_nil_iff.2 h

/-- Blank characters at the right end play no part in what is left of it. -/
theorem rdropWhile_append_of_isBlank (cs : List Char) (h : IsBlank after) :
    (cs ++ after).rdropWhile isBlank = cs.rdropWhile isBlank := by
  rw [List.rdropWhile, List.reverse_append, List.dropWhile_append_of_pos]
  · rfl
  · intro c hc
    exact h c (List.mem_reverse.1 hc)

/-- Blank characters around a text are dropped with those at its ends. -/
theorem trimChars_append (hbefore : IsBlank before) (hafter : IsBlank after) (cs : List Char) :
    trimChars (before ++ (cs ++ after)) = trimChars cs := by
  rw [trimChars_eq, trimChars_eq, List.dropWhile_append_of_pos hbefore, List.dropWhile_append]
  split
  · rename_i hempty
    rw [List.isEmpty_iff] at hempty
    rw [hempty, dropWhile_of_isBlank hafter]
  · exact rdropWhile_append_of_isBlank _ hafter

/-- A text without blank characters at its ends is left as it is. -/
theorem trimChars_eq_self (hhead : ∀ c ∈ cs.head?, isBlank c = false)
    (hlast : ∀ c ∈ cs.getLast?, isBlank c = false) : trimChars cs = cs := by
  have hleft : cs.dropWhile isBlank = cs := by
    rw [List.dropWhile_eq_self_iff]
    intro hne
    rw [hhead _ (by simp [List.head?_eq_getElem?, List.getElem?_eq_getElem hne])]
    exact Bool.false_ne_true
  rw [trimChars_eq, hleft, List.rdropWhile_eq_self_iff]
  intro hne
  rw [hlast _ (by simp [List.getLast?_eq_some_getLast hne])]
  exact Bool.false_ne_true

/-- What trimming leaves is trimmed. -/
theorem trims_trimChars (cs : List Char) : Trims cs (trimChars cs) where
  framed := by
    refine ⟨cs.takeWhile isBlank, (cs.dropWhile isBlank).rtakeWhile isBlank, ?_, ?_, ?_⟩
    · rw [trimChars_eq, List.rdropWhile_append_rtakeWhile, List.takeWhile_append_dropWhile]
    · intro c hc
      exact List.mem_takeWhile_imp hc
    · intro c hc
      exact List.mem_rtakeWhile_imp hc
  head := by
    intro c hc
    obtain ⟨rest, hrest⟩ := List.rdropWhile_prefix isBlank (l := cs.dropWhile isBlank)
    have hfirst : c ∈ (cs.dropWhile isBlank).head? := by
      rw [← hrest, List.head?_append, ← trimChars_eq, hc]
      rfl
    have hnot := List.head?_dropWhile_not isBlank cs
    rw [hfirst] at hnot
    exact hnot
  last := by
    intro c hc
    have hne : trimChars cs ≠ [] := by
      rintro hnil
      rw [hnil] at hc
      cases hc
    have hnot := List.rdropWhile_last_not isBlank (cs.dropWhile isBlank) hne
    rw [List.getLast?_eq_some_getLast hne] at hc
    obtain rfl := Option.some.inj hc
    exact Bool.eq_false_iff.2 hnot

/-- A text has exactly one trimmed text. -/
theorem trimChars_eq_iff : trimChars cs = trimmed ↔ Trims cs trimmed := by
  constructor
  · rintro rfl
    exact trims_trimChars cs
  · intro h
    obtain ⟨before, after, rfl, hbefore, hafter⟩ := h.framed
    rw [trimChars_append hbefore hafter, trimChars_eq_self h.head h.last]

/-- A text that trimming has left is its own trimmed text. -/
theorem Trims.self (h : Trims cs trimmed) : Trims trimmed trimmed where
  framed := ⟨[], [], by simp, by simp [IsBlank], by simp [IsBlank]⟩
  head := h.head
  last := h.last

end RunnerRelease.Text
