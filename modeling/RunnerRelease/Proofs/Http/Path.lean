import Mathlib.Data.List.Flatten
import RunnerRelease.Proofs.Http.Percent
import RunnerRelease.Proofs.Http.Url

/-!
# Segments of a path

Texts that stand in an address with a slash before each of them are had again as the segments of
its path if and only if each of them stands for itself: it holds no character that parts, ends or
is dropped from a path, its percent signs spell no octets, and it is not made of dots.

## Implementation notes

Characters can work together, as where a slash adds a segment and dots take one away, so that
the segments are not compared one by one. What is read from a path is counted in bytes instead:
no step of the reader adds any, and each of these characters takes some away. Where no byte is
missing, every text stands for itself.
-/

namespace RunnerRelease.Http.Url

open Text

variable {test : Char → Bool} {c : Char} {cs first part : List Char} {parts : List (List Char)}
  {done : List String}

theorem splitWhere_ne_nil (test : Char → Bool) (cs : List Char) : splitWhere test cs ≠ [] := by
  cases cs with
  | nil => exact List.cons_ne_nil _ _
  | cons c rest =>
      rw [splitWhere]
      split
      · exact List.cons_ne_nil _ _
      · split <;> exact List.cons_ne_nil _ _

/-- The parts of a text hold all that does not part it. -/
theorem flatten_splitWhere (test : Char → Bool) (cs : List Char) :
    (splitWhere test cs).flatten = cs.filter fun c => !test c := by
  induction cs with
  | nil => rfl
  | cons c rest ih =>
      rw [splitWhere]
      split
      · rename_i hc
        rw [List.flatten_cons, List.nil_append, ih, List.filter_cons_of_neg (by simpa using hc)]
      · rename_i hc
        rw [List.filter_cons_of_pos (by simpa using hc), ← ih]
        split
        · rename_i hnil
          rw [hnil]
          rfl
        · rename_i hparts
          rw [hparts]
          rfl

theorem not_of_mem_splitWhere (hpart : part ∈ splitWhere test cs) (hc : c ∈ part) : ¬ test c := by
  have hmem : c ∈ (splitWhere test cs).flatten := List.mem_flatten.2 ⟨part, hpart, hc⟩
  rw [flatten_splitWhere, List.mem_filter] at hmem
  simpa using hmem.2

theorem splitWhere_append_cons (hfirst : ∀ x ∈ first, ¬ test x) (hc : test c) (cs : List Char) :
    splitWhere test (first ++ c :: cs) = first :: splitWhere test cs := by
  induction first with
  | nil => rw [List.nil_append, splitWhere, if_pos hc]
  | cons x first ih =>
      rw [List.forall_mem_cons] at hfirst
      rw [List.cons_append, splitWhere, if_neg hfirst.1, ih hfirst.2]

/-- Texts with a slash before each of them. -/
def slashed (parts : List (List Char)) : List Char := parts.flatMap ('/' :: ·)

theorem slashed_cons (part : List Char) (parts : List (List Char)) :
    slashed (part :: parts) = '/' :: (part ++ slashed parts) := List.flatMap_cons

/-- Texts without slashes are had again at the slashes before them. -/
theorem splitWhere_slashed (hslash : test '/') (h : ∀ x ∈ part :: parts, ∀ c ∈ x, ¬ test c) :
    splitWhere test (part ++ slashed parts) = part :: parts := by
  induction parts generalizing part with
  | nil =>
      rw [slashed, List.flatMap_nil, List.append_nil]
      exact splitWhere_eq_singleton (h part List.mem_cons_self)
  | cons next parts ih =>
      rw [List.forall_mem_cons] at h
      rw [slashed_cons, splitWhere_append_cons h.1 hslash, ih h.2]

/-- A segment that stands for a place in the path. -/
def isDots (part : List Char) : Bool := isSingleDot part || isDoubleDot part

/-- The segment of a path that is written for a text. -/
def segmentOf (part : List Char) : String := .ofList (encodeWhere isEncodedInPath part)

theorem resolve_cons (h : isDots part = false) (done : List String) (parts : List (List Char)) :
    resolve done (part :: parts) = resolve (segmentOf part :: done) parts := by
  obtain ⟨hsingle, hdouble⟩ := Bool.or_eq_false_iff.1 h
  cases parts with
  | nil => simp [resolve, hsingle, hdouble, segmentOf]
  | cons next parts => simp [resolve, hsingle, hdouble, segmentOf]

/-- Segments of dots leave nothing behind but an empty segment at the end. -/
theorem exists_resolve_cons_of_isDots (h : isDots part) (done : List String)
    (parts : List (List Char)) :
    ∃ before, resolve done (part :: parts) = resolve before parts ∧
      before.Sublist ("" :: done) := by
  have htail : done.tail.Sublist done := done.tail_suffix.sublist
  cases parts with
  | nil =>
      rw [resolve]
      split
      · exact ⟨"" :: done.tail, rfl, htail.cons_cons ""⟩
      · rename_i hdouble
        rw [if_pos (by simpa [isDots, hdouble] using h)]
        exact ⟨"" :: done, rfl, List.Sublist.refl _⟩
  | cons next parts =>
      rw [resolve]
      · split
        · exact ⟨done.tail, rfl, htail.cons ""⟩
        · rename_i hdouble
          rw [if_pos (by simpa [isDots, hdouble] using h)]
          exact ⟨done, rfl, List.sublist_cons_self "" done⟩
      · simp

/-- Segments without dots are all kept. -/
theorem resolve_of_not_isDots (h : ∀ part ∈ parts, isDots part = false) (done : List String) :
    resolve done parts = done.reverse ++ parts.map segmentOf := by
  induction parts generalizing done with
  | nil => simp [resolve]
  | cons part parts ih =>
      rw [List.forall_mem_cons] at h
      rw [resolve_cons h.1, ih h.2]
      simp

theorem resolve_ne_nil (done : List String) (hne : parts ≠ []) : resolve done parts ≠ [] := by
  fun_induction resolve done parts with
  | case1 => exact absurd rfl hne
  | case2 | case3 | case4 => simp
  | case5 _ _ _ hrest _ ih => exact ih hrest
  | case6 _ _ _ hrest _ _ ih => exact ih hrest
  | case7 _ _ _ hrest _ _ ih => exact ih hrest

/-- The segments of a resolved path are those of the texts, or empty. -/
theorem exists_of_mem_resolve {segment : String} (h : segment ∈ resolve done parts) :
    segment ∈ "" :: done ∨ ∃ part ∈ parts, segment = segmentOf part := by
  induction parts generalizing done with
  | nil =>
      rw [resolve, List.mem_reverse] at h
      exact .inl (List.mem_cons_of_mem _ h)
  | cons part parts ih =>
      have hlater (before : List String) (hmem : segment ∈ resolve before parts) :
          segment ∈ "" :: before ∨ ∃ later ∈ part :: parts, segment = segmentOf later := by
        rcases ih hmem with hdone | ⟨later, hpart, heq⟩
        · exact .inl hdone
        · exact .inr ⟨later, List.mem_cons_of_mem _ hpart, heq⟩
      cases hdots : isDots part with
      | true =>
          obtain ⟨before, hresolve, hbefore⟩ := exists_resolve_cons_of_isDots hdots done parts
          rw [hresolve] at h
          refine (hlater before h).imp_left ?_
          intro hmem
          rcases List.mem_cons.1 hmem with rfl | hmem
          · exact List.mem_cons_self
          · exact hbefore.subset hmem
      | false =>
          rw [resolve_cons hdots] at h
          rcases hlater _ h with hmem | hpart
          · rw [List.mem_cons, List.mem_cons] at hmem
            rcases hmem with rfl | rfl | hmem
            · exact .inl List.mem_cons_self
            · exact .inr ⟨part, List.mem_cons_self, rfl⟩
            · exact .inl (List.mem_cons_of_mem _ hmem)
          · exact .inr hpart

/-- What the segments of a path stand for, in bytes. -/
def decoded (path : List String) : List Bytes :=
  path.map fun segment => percentDecode segment.toList

/-- The number of bytes that the segments of a path stand for. -/
def weight (path : List String) : Nat := (decoded path).flatten.length

@[simp] theorem weight_cons (segment : String) (path : List String) :
    weight (segment :: path) = (percentDecode segment.toList).length + weight path := by
  rw [weight, decoded, List.map_cons, List.flatten_cons, List.length_append]
  rfl

theorem weight_le_of_sublist {before after : List String} (h : before.Sublist after) :
    weight before ≤ weight after :=
  (h.map _).flatten.length_le

theorem weight_reverse (path : List String) : weight path.reverse = weight path :=
  ((path.reverse_perm.map _).flatten).length_eq

theorem utf8Length_pos_of_isDots (h : isDots part) : 0 < utf8Length part := by
  cases part with
  | nil => cases h
  | cons c rest => exact Nat.add_pos_left c.utf8Size_pos _

/--
A resolved path stands for no more bytes than the texts that it is made of, and for as many only
if these have neither dots nor octets.
-/
theorem weight_resolve_le (done : List String) (parts : List (List Char)) :
    weight (resolve done parts) ≤ weight done + utf8Length parts.flatten ∧
      (weight done + utf8Length parts.flatten ≤ weight (resolve done parts) →
        ∀ part ∈ parts, isDots part = false ∧ Unspelled part) := by
  induction parts generalizing done with
  | nil =>
      constructor
      · rw [resolve, weight_reverse]
        exact Nat.le_add_right _ _
      · intro _ part hpart
        cases hpart
  | cons part parts ih =>
      rw [List.flatten_cons, utf8Length_append]
      cases hdots : isDots part with
      | true =>
          obtain ⟨before, hresolve, hbefore⟩ := exists_resolve_cons_of_isDots hdots done parts
          have hle := weight_le_of_sublist hbefore
          have hpos := utf8Length_pos_of_isDots hdots
          have hrest := (ih before).1
          have hempty : (percentDecode "".toList).length = 0 := rfl
          rw [weight_cons, hempty] at hle
          rw [hresolve]
          omega
      | false =>
          obtain ⟨hle, hunspelled⟩ := length_percentDecode_encodeWhere_le part
          obtain ⟨hrest, hparts⟩ := ih (segmentOf part :: done)
          rw [weight_cons, segmentOf, String.toList_ofList] at hrest hparts
          rw [resolve_cons hdots, segmentOf]
          constructor
          · omega
          · intro hge
            rw [List.forall_mem_cons]
            exact ⟨⟨hdots, hunspelled (by omega)⟩, hparts (by omega)⟩

theorem plainDots_eq_self (h : Unspelled part) : plainDots part = part := by
  induction part using plainDots.induct with
  | case1 c rest hc ih =>
      exfalso
      apply (unspelled_cons.1 h).1
      refine ⟨'2', c, rest, rfl, rfl, ?_⟩
      rcases hc with rfl | rfl <;> rfl
  | case2 c rest hc ih =>
      obtain ⟨-, htwo⟩ := unspelled_cons.1 h
      obtain ⟨-, hlast⟩ := unspelled_cons.1 htwo
      rw [plainDots, if_neg hc, ih (unspelled_cons.1 hlast).2]
  | case3 c rest hc ih =>
      rw [plainDots, ih (unspelled_cons.1 h).2]
      exact hc
  | case4 => rfl

/-- A character that neither parts nor ends a path and is not dropped from it. -/
def isPlain (c : Char) : Bool := !(['/', '\\', '?', '#', '\t', '\n', '\r'].contains c)

theorem isPlain_iff : isPlain c ↔ isKept c ∧ isInPath c ∧ ¬ isSlash c := by
  simp only [isPlain, isKept, isInPath, isSlash, List.contains_eq_mem, List.mem_cons,
    List.not_mem_nil, Bool.not_eq_true', decide_eq_false_iff_not, Bool.and_eq_true, bne_iff_ne,
    Bool.or_eq_true, decide_eq_true_eq]
  tauto

/-- A text that stands for itself as a segment of an address. -/
structure IsSegment (part : List Char) : Prop where
  plain : ∀ c ∈ part, isPlain c
  unspelled : Unspelled part
  undotted : part ≠ ['.'] ∧ part ≠ ['.', '.']

/-- The path that is read where texts stand in an address with a slash before each of them. -/
def pathOf (parts : List (List Char)) : List String :=
  readPath (((slashed parts).filter isKept).takeWhile isInPath)

theorem eq_or_exists_of_mem_slashed (h : c ∈ slashed parts) :
    c = '/' ∨ ∃ part ∈ parts, c ∈ part := by
  obtain ⟨part, hpart, hc⟩ := List.mem_flatMap.1 h
  rcases List.mem_cons.1 hc with rfl | hc
  · exact .inl rfl
  · exact .inr ⟨part, hpart, hc⟩

/-- Plain texts are read as they are. -/
theorem pathOf_eq_resolve (hne : parts ≠ []) (h : ∀ part ∈ parts, ∀ c ∈ part, isPlain c) :
    pathOf parts = resolve [] parts := by
  have hmem : ∀ c ∈ slashed parts, isKept c ∧ isInPath c := by
    intro c hc
    rcases eq_or_exists_of_mem_slashed hc with rfl | ⟨part, hpart, hpartc⟩
    · decide
    · obtain ⟨hkept, hinPath, -⟩ := isPlain_iff.1 (h part hpart c hpartc)
      exact ⟨hkept, hinPath⟩
  have hslash : ∀ part ∈ parts, ∀ c ∈ part, ¬ isSlash c := by
    intro part hpart c hc
    exact (isPlain_iff.1 (h part hpart c hc)).2.2
  rw [pathOf, List.filter_eq_self.2 fun c hc => (hmem c hc).1,
    List.takeWhile_eq_self_iff.2 fun c hc => (hmem c hc).2]
  obtain ⟨first, rest, rfl⟩ := List.exists_cons_of_ne_nil hne
  rw [slashed_cons, readPath]
  rw [if_pos (by decide), splitWhere_slashed (by decide) hslash]

theorem filter_isPlain_slashed (parts : List (List Char)) :
    (slashed parts).filter isPlain = parts.flatten.filter isPlain := by
  induction parts with
  | nil => rfl
  | cons part parts ih =>
      rw [slashed_cons, List.filter_cons_of_neg (by decide), List.filter_append, ih,
        List.flatten_cons, List.filter_append]

/-- Only the plain characters of texts can be had again from the path. -/
theorem weight_pathOf_le (hne : parts ≠ []) :
    weight (pathOf parts) ≤ utf8Length (parts.flatten.filter isPlain) := by
  obtain ⟨first, rest, rfl⟩ := List.exists_cons_of_ne_nil hne
  rw [← filter_isPlain_slashed, pathOf, slashed_cons, List.filter_cons_of_pos (by decide),
    List.takeWhile_cons_of_pos (by decide), readPath, if_pos (by decide)]
  generalize htext : (first ++ slashed rest).filter isKept = text
  have hcut : (text.takeWhile isInPath).filter (fun c => !isSlash c) =
      (text.takeWhile isInPath).filter isPlain := by
    apply List.filter_congr
    intro c hc
    have hinPath := List.mem_takeWhile_imp hc
    have hkept : isKept c := by
      have hmem := (List.takeWhile_prefix _).subset hc
      rw [← htext] at hmem
      exact (List.mem_filter.1 hmem).2
    rw [Bool.eq_iff_iff, isPlain_iff]
    simp [hinPath, hkept]
  have hsublist : (text.takeWhile isInPath).Sublist ('/' :: (first ++ slashed rest)) := by
    apply List.Sublist.cons
    rw [← htext]
    exact (List.takeWhile_sublist _).trans List.filter_sublist
  calc weight (resolve [] (splitWhere isSlash (text.takeWhile isInPath)))
      ≤ utf8Length (splitWhere isSlash (text.takeWhile isInPath)).flatten := by
        simpa [weight, decoded] using (weight_resolve_le [] _).1
    _ = utf8Length ((text.takeWhile isInPath).filter isPlain) := by
        rw [flatten_splitWhere, hcut]
    _ ≤ utf8Length (('/' :: (first ++ slashed rest)).filter isPlain) :=
        utf8Length_le_of_sublist (hsublist.filter _)

/-- Characters that are left out would be missed. -/
theorem forall_of_utf8Length_le_filter (h : utf8Length cs ≤ utf8Length (cs.filter test)) :
    ∀ c ∈ cs, test c := by
  induction cs with
  | nil => simp
  | cons c rest ih =>
      have hle := utf8Length_le_of_sublist (List.filter_sublist (p := test) (l := rest))
      have hpos := c.utf8Size_pos
      rw [utf8Length_cons] at h
      by_cases hc : test c
      · rw [List.filter_cons_of_pos hc, utf8Length_cons] at h
        exact List.forall_mem_cons.2 ⟨hc, ih (by omega)⟩
      · rw [List.filter_cons_of_neg hc] at h
        omega

theorem IsSegment.isDots_eq_false (h : IsSegment part) : isDots part = false := by
  have hplain := plainDots_eq_self h.unspelled
  simp [isDots, isSingleDot, isDoubleDot, hplain, h.undotted]

/-- Texts are had again from the path if and only if each of them stands for itself. -/
theorem decoded_pathOf_iff (hne : parts ≠ []) :
    decoded (pathOf parts) = parts.map (List.flatMap String.utf8EncodeChar) ↔
      ∀ part ∈ parts, IsSegment part := by
  constructor
  · intro h
    have hweight : weight (pathOf parts) = utf8Length parts.flatten := by
      rw [weight, h, ← length_flatMap_utf8EncodeChar, List.flatMap_def, List.map_flatten,
        List.flatten_flatten, List.map_map]
      rfl
    have hplain : ∀ c ∈ parts.flatten, isPlain c := by
      apply forall_of_utf8Length_le_filter
      rw [← hweight]
      exact weight_pathOf_le hne
    have hresolve := pathOf_eq_resolve hne fun part hpart c hc =>
      hplain c (List.mem_flatten.2 ⟨part, hpart, hc⟩)
    rw [hresolve] at hweight
    intro part hpart
    obtain ⟨hdots, hunspelled⟩ := (weight_resolve_le [] parts).2
      (by rw [hweight]; simp [weight, decoded]) part hpart
    refine ⟨fun c hc => hplain c (List.mem_flatten.2 ⟨part, hpart, hc⟩), hunspelled, ?_⟩
    constructor
    · rintro rfl
      cases hdots
    · rintro rfl
      cases hdots
  · intro h
    rw [pathOf_eq_resolve hne fun part hpart => (h part hpart).plain,
      resolve_of_not_isDots fun part hpart => (h part hpart).isDots_eq_false]
    rw [decoded, List.reverse_nil, List.nil_append, List.map_map]
    apply List.map_congr_left
    intro part hpart
    rw [Function.comp_apply, segmentOf, String.toList_ofList,
      percentDecode_encodeWhere (h part hpart).unspelled]

end RunnerRelease.Http.Url
