import Mathlib.Data.Bool.AllAny
import Mathlib.Data.List.TakeDrop
import Mathlib.Data.List.TakeWhile
import RunnerRelease.Http.Url

/-!
# The end of an address

The target of an address that ends in a slash and a number has the same end, however the part
before it is spelled.

## Implementation notes

An address is taken apart from the front, and each step leaves the end of the text as it is: the
last slash comes after a letter, so that it is none of the slashes before the host, and what
follows it holds no character that ends or begins another part. The end thus belongs to the path
or, if the address itself has a question mark, to the query. A number sign would cut it off.
-/

namespace RunnerRelease

namespace Http.Url

/-- The characters of a number in decimal. -/
def numberChars : List Char := ['-', '0', '1', '2', '3', '4', '5', '6', '7', '8', '9']

theorem mem_numberChars_of_isDigit {c : Char} (h : c.isDigit = true) : c ∈ numberChars := by
  have hrange : 48 ≤ c.toNat ∧ c.toNat ≤ 57 := by
    simpa [Char.isDigit, UInt32.le_iff_toNat_le] using h
  have hall : ∀ n < 58, 48 ≤ n → Char.ofNat n ∈ numberChars := by decide
  have hc := hall c.toNat (by omega) hrange.1
  rwa [Char.ofNat_toNat] at hc

theorem mem_numberChars_of_mem_repr (id : Int) : ∀ c ∈ id.repr.toList, c ∈ numberChars := by
  have hdigits (n : Nat) : ∀ c ∈ n.repr.toList, c ∈ numberChars := by
    intro c hc
    rw [Nat.repr_eq_ofList_toDigits, String.toList_ofList] at hc
    exact mem_numberChars_of_isDigit (Nat.isDigit_of_mem_toDigits (by decide) (by decide) hc)
  cases id with
  | ofNat n => exact hdigits n
  | negSucc n =>
      intro c hc
      rw [Int.repr, String.toList_append, List.mem_append] at hc
      rcases hc with hsign | hdigit
      · obtain rfl : c = '-' := by simpa using hsign
        decide
      · exact hdigits _ c hdigit

theorem repr_toList_ne_nil (id : Int) : id.repr.toList ≠ [] := by
  cases id <;> simp [Int.repr]

section

variable {s : String} {c : Char} {cs tail digits : List Char} {test : Char → Bool} {url : Url}

/-- What ends a list still ends it where dropping stops before it. -/
theorem suffix_dropWhile (h : c :: tail <:+ cs) (hc : ¬ test c) :
    c :: tail <:+ cs.dropWhile test := by
  obtain ⟨front, rfl⟩ := h
  rw [List.dropWhile_append]
  split
  · exact (List.dropWhile_cons_of_neg hc).symm ▸ List.suffix_refl _
  · exact List.suffix_append _ _

/-- What ends a list and does not hold a character ends the part after that character. -/
theorem suffix_of_notMem {front : List Char} (h : tail <:+ front ++ c :: cs) (hc : c ∉ tail) :
    tail <:+ cs := by
  rcases List.suffix_or_suffix_of_suffix h (List.suffix_append front (c :: cs)) with hend | hend
  · rcases List.suffix_cons_iff.1 hend with rfl | hrest
    · exact absurd List.mem_cons_self hc
    · exact hrest
  · exact absurd (hend.subset List.mem_cons_self) hc

/-- Nothing is dropped from the end of a list whose last elements are to be kept. -/
theorem reverse_dropWhile_reverse (front : List Char) (hne : tail ≠ [])
    (h : ∀ x ∈ tail, ¬ test x) :
    ((front ++ tail).reverse.dropWhile test).reverse = front ++ tail := by
  rw [List.reverse_append]
  cases hreverse : tail.reverse with
  | nil => exact absurd (List.reverse_eq_nil_iff.1 hreverse) hne
  | cons last rest =>
      have hlast : last ∈ tail := by
        rw [← List.mem_reverse, hreverse]
        exact List.mem_cons_self
      rw [List.cons_append, List.dropWhile_cons_of_neg (h last hlast), ← List.cons_append,
        ← hreverse, ← List.reverse_append, List.reverse_reverse]

/-- A character that is not dropped from an address. -/
def isKept (c : Char) : Bool := c != '\t' && c != '\n' && c != '\r'

theorem isKept_of_visible (h : 0x20 < c.toNat) : isKept c := by
  have hne (y : Char) (hy : y.toNat ≤ 0x20) : (c != y) = true := by
    rw [bne_iff_ne]
    rintro rfl
    exact absurd hy (Nat.not_le.2 h)
  rw [isKept, hne '\t' (by decide), hne '\n' (by decide), hne '\r' (by decide)]
  rfl

theorem filter_isKept_of_visible (h : ∀ x ∈ cs, 0x20 < x.toNat) : cs.filter isKept = cs :=
  List.filter_eq_self.2 fun x hx => isKept_of_visible (h x hx)

/-- What ends a text in visible characters is not dropped. -/
theorem suffix_clean (h : c :: tail <:+ s.toList) (hvisible : ∀ x ∈ c :: tail, 0x20 < x.toNat) :
    c :: tail <:+ clean s := by
  have hedge : ∀ x ∈ c :: tail, ¬ decide (x.toNat ≤ 0x20) := by
    intro x hx
    simpa using hvisible x hx
  have hbegin : c :: tail <:+ s.toList.dropWhile fun x => decide (x.toNat ≤ 0x20) :=
    suffix_dropWhile h (hedge c List.mem_cons_self)
  obtain ⟨front, hfront⟩ := hbegin
  rw [clean, ← filter_isKept_of_visible hvisible]
  apply List.IsSuffix.filter
  rw [← hfront, reverse_dropWhile_reverse front (List.cons_ne_nil c tail) hedge]
  exact List.suffix_append _ _

theorem mem_of_mem_clean (h : c ∈ clean s) : c ∈ s.toList := by
  have hend := (List.dropWhile_suffix _).subset (List.mem_reverse.1 (List.mem_filter.1 h).1)
  exact (List.dropWhile_suffix _).subset (List.mem_reverse.1 hend)

/-- A part that holds no separator is the last of the parts. -/
theorem splitWhere_eq_singleton (h : ∀ x ∈ tail, ¬ test x) : splitWhere test tail = [tail] := by
  induction tail with
  | nil => rfl
  | cons x rest ih =>
      rw [List.forall_mem_cons] at h
      rw [splitWhere, if_neg h.1, ih h.2]

theorem exists_splitWhere_append (hc : test c) (h : ∀ x ∈ tail, ¬ test x) (front : List Char) :
    ∃ first parts, splitWhere test (front ++ c :: tail) = first :: (parts ++ [tail]) := by
  induction front with
  | nil =>
      refine ⟨[], [], ?_⟩
      rw [List.nil_append, splitWhere, if_pos hc, splitWhere_eq_singleton h]
      rfl
  | cons x front ih =>
      obtain ⟨first, parts, hparts⟩ := ih
      rw [List.cons_append, splitWhere, hparts]
      split
      · exact ⟨[], first :: parts, rfl⟩
      · exact ⟨x :: first, parts, rfl⟩

/-- A segment that begins neither with a dot nor with a percent sign is none of dots. -/
theorem not_dots_of_head (hdot : c ≠ '.') (hpercent : c ≠ '%') (rest : List Char) :
    isSingleDot (c :: rest) = false ∧ isDoubleDot (c :: rest) = false := by
  have hhead : plainDots (c :: rest) = c :: plainDots rest := by
    rw [plainDots]
    rintro _ _ rfl _
    exact hpercent rfl
  simp [isSingleDot, isDoubleDot, hhead, hdot]

/-- The last segment of a path stays the last one, unless it is made of dots. -/
theorem exists_resolve_append (hsingle : isSingleDot tail = false)
    (hdouble : isDoubleDot tail = false) (parts : List (List Char)) (done : List String) :
    ∃ front, resolve done (parts ++ [tail]) =
      front ++ [String.ofList (encodeWhere isEncodedInPath tail)] := by
  induction parts generalizing done with
  | nil =>
      rw [List.nil_append, resolve, hsingle, hdouble]
      exact ⟨done.reverse, by simp⟩
  | cons part parts ih =>
      rw [List.cons_append, resolve]
      · split
        · exact ih _
        · split <;> exact ih _
      · simp

/-- A character that goes on with the host of an address. -/
def isBeforePath (c : Char) : Bool := !(isSlash c || c == '?' || c == '#')

/-- A character that goes on with the path of an address. -/
def isInPath (c : Char) : Bool := c != '?' && c != '#'

/-- The query that begins with a question mark at the end of the path. -/
def readQuery : List Char → Option String
  | '?' :: rest => some (.ofList (encodeWhere isEncodedInQuery (rest.takeWhile (· != '#'))))
  | _ => none

/-- The path and the query of an address are read from what follows the host. -/
theorem exists_rest_of_parse? (h : parse? s = some url) :
    ∃ name rest after, clean s = name ++ ':' :: rest ∧ ':' ∉ name ∧
      after = (rest.dropWhile isSlash).dropWhile isBeforePath ∧
      url.path = readPath (after.takeWhile isInPath) ∧
      url.query = readQuery (after.dropWhile isInPath) := by
  rw [parse?] at h
  obtain ⟨⟨scheme, rest⟩, hscheme, h⟩ := Option.bind_eq_some_iff.1 h
  have hname : ∃ name, clean s = name ++ ':' :: rest ∧ ':' ∉ name := by
    rw [readScheme, List.span_eq_takeWhile_dropWhile] at hscheme
    split at hscheme
    · rename_i name found hspan
      split at hscheme
      · cases hscheme
        obtain ⟨-, hrest⟩ := Prod.mk.inj hspan
        refine ⟨_, by rw [← hrest, List.takeWhile_append_dropWhile], ?_⟩
        intro hcolon
        exact absurd (List.mem_takeWhile_imp hcolon) (by decide)
      · cases hscheme
    · cases hscheme
  obtain ⟨name, hname, hcolon⟩ := hname
  simp only [List.span_eq_takeWhile_dropWhile] at h
  -- the scheme only tells whether the connection is secure
  split at h
  case' isFalse => split at h
  case isFalse.isFalse => cases h
  all_goals
    obtain ⟨secure, -, h⟩ := Option.bind_eq_some_iff.1 h
    obtain ⟨host, -, h⟩ := Option.bind_eq_some_iff.1 h
    cases h
    exact ⟨name, rest, _, hname, hcolon, rfl, rfl, rfl⟩

theorem not_of_mem_head?_dropWhile (h : c ∈ (cs.dropWhile test).head?) : ¬ test c := by
  have hhead := List.head?_dropWhile_not test cs
  rw [Option.mem_def.1 h] at hhead
  simpa using hhead

theorem mem_of_mem_dropWhile (h : c ∈ cs.dropWhile test) : c ∈ cs :=
  (List.dropWhile_suffix _).subset h

theorem encodeWhere_append (front : List Char) :
    encodeWhere test (front ++ tail) = encodeWhere test front ++ encodeWhere test tail :=
  List.flatMap_append

/-- Characters that need no percent signs are written as they are. -/
theorem encodeWhere_eq_self (h : ∀ x ∈ tail, ¬ test x) : encodeWhere test tail = tail := by
  induction tail with
  | nil => rfl
  | cons x rest ih =>
      rw [List.forall_mem_cons] at h
      rw [encodeWhere, List.flatMap_cons, if_neg h.1]
      exact congrArg (x :: ·) (ih h.2)

/-- A path that ends in a slash and a number is sent with this end. -/
theorem exists_readPath (hdigits : ∀ x ∈ digits, x ∈ numberChars) (hne : digits ≠ [])
    (hslash : ∀ x ∈ cs.head?, isSlash x) (hcs : '/' :: digits <:+ cs) :
    ∃ front, readPath cs = front ++ [String.ofList digits] := by
  have hnumber : ∀ x ∈ numberChars, ¬ isSlash x ∧ ¬ isEncodedInPath x ∧ x ≠ '.' ∧ x ≠ '%' :=
    List.all_iff_forall_prop.1 (by decide)
  have hplain : ∀ x ∈ digits, ¬ isSlash x := fun x hx => (hnumber x (hdigits x hx)).1
  have hdots : isSingleDot digits = false ∧ isDoubleDot digits = false := by
    obtain ⟨x, rest, rfl⟩ := List.exists_cons_of_ne_nil hne
    obtain ⟨-, -, hdot, hpercent⟩ := hnumber x (hdigits x List.mem_cons_self)
    exact not_dots_of_head hdot hpercent rest
  have hencoded : encodeWhere isEncodedInPath digits = digits :=
    encodeWhere_eq_self fun x hx => (hnumber x (hdigits x hx)).2.1
  have hresolve := exists_resolve_append hdots.1 hdots.2
  rw [hencoded] at hresolve
  cases cs with
  | nil => cases List.suffix_nil.1 hcs
  | cons x rest =>
      rw [readPath]
      simp only [hslash x rfl, if_true]
      rcases List.suffix_cons_iff.1 hcs with heq | ⟨front, rfl⟩
      · cases heq
        rw [splitWhere_eq_singleton hplain]
        exact hresolve [] []
      · obtain ⟨first, parts, hparts⟩ := exists_splitWhere_append
          (c := '/') (by decide) hplain front
        rw [hparts]
        exact hresolve (first :: parts) []

/-- An address whose path ends in a slash and a number is sent with this end. -/
theorem exists_target_of_path (hquery : url.query = none)
    (hpath : ∃ front, url.path = front ++ [String.ofList digits]) :
    ∃ front, url.target = front ++ "/" ++ String.ofList digits := by
  obtain ⟨front, hfront⟩ := hpath
  refine ⟨String.join (front.map ("/" ++ ·)), ?_⟩
  rw [target, hquery]
  simp [pathText, hfront, String.append_assoc]

/-- An address whose query ends in a slash and a number is sent with this end. -/
theorem exists_target_of_query {query : List Char} (hquery : url.query = readQuery ('?' :: query))
    (hdigits : ∀ x ∈ digits, x ∈ numberChars) (hhash : '#' ∉ query)
    (hend : '/' :: digits <:+ query) :
    ∃ front, url.target = front ++ "/" ++ String.ofList digits := by
  have hnumber : ∀ x ∈ numberChars, ¬ isEncodedInQuery x :=
    List.all_iff_forall_prop.1 (by decide)
  have hwhole : query.takeWhile (· != '#') = query := by
    rw [List.takeWhile_eq_self_iff]
    intro x hx
    rw [bne_iff_ne]
    rintro rfl
    exact hhash hx
  have hencoded : encodeWhere isEncodedInQuery ('/' :: digits) = '/' :: digits := by
    apply encodeWhere_eq_self
    rw [List.forall_mem_cons]
    exact ⟨by decide, fun x hx => hnumber x (hdigits x hx)⟩
  obtain ⟨front, rfl⟩ := hend
  rw [readQuery, hwhole, encodeWhere_append, hencoded] at hquery
  generalize encodeWhere isEncodedInQuery front = before at hquery
  rw [target, hquery]
  split
  · rename_i heq
    cases heq
  · rename_i heq
    have hnil := congrArg String.toList (Option.some.inj heq)
    simp at hnil
  · rename_i query _ heq
    cases heq
    refine ⟨url.pathText ++ "?" ++ String.ofList before, ?_⟩
    simp [String.append_assoc, String.ofList_append, String.ofList_cons]

/-- What follows the host of an address that ends in a slash and a number has this end. -/
theorem exists_suffix_of_parse? (h : parse? s = some url)
    (hdigits : ∀ x ∈ digits, x ∈ numberChars) (hs : 's' :: '/' :: digits <:+ s.toList)
    (hhash : '#' ∉ s.toList) :
    ∃ after, '/' :: digits <:+ after ∧ '#' ∉ after ∧ (∀ x ∈ after.head?, ¬ isBeforePath x) ∧
      url.path = readPath (after.takeWhile isInPath) ∧
      url.query = readQuery (after.dropWhile isInPath) := by
  have hnumber : ∀ x ∈ numberChars, 0x20 < x.toNat ∧ x ≠ ':' :=
    List.all_iff_forall_prop.1 (by decide)
  have hclean : 's' :: '/' :: digits <:+ clean s := by
    refine suffix_clean hs ?_
    rw [List.forall_mem_cons, List.forall_mem_cons]
    exact ⟨by decide, by decide, fun x hx => (hnumber x (hdigits x hx)).1⟩
  obtain ⟨name, rest, after, hname, -, rfl, hpath, hquery⟩ := exists_rest_of_parse? h
  have hcolon : ':' ∉ 's' :: '/' :: digits := by
    rw [List.mem_cons, List.mem_cons]
    rintro (heq | heq | hmem)
    · cases heq
    · cases heq
    · exact (hnumber _ (hdigits _ hmem)).2 rfl
  have hrest : 's' :: '/' :: digits <:+ rest := suffix_of_notMem (hname ▸ hclean) hcolon
  have hhost : '/' :: digits <:+ rest.dropWhile isSlash :=
    (List.suffix_cons _ _).trans (suffix_dropWhile hrest (by decide))
  refine ⟨_, suffix_dropWhile hhost (by decide), ?_, fun x hx => not_of_mem_head?_dropWhile hx,
    hpath, hquery⟩
  intro hmem
  have hkept := mem_of_mem_dropWhile (mem_of_mem_dropWhile hmem)
  refine hhash (mem_of_mem_clean ?_)
  rw [hname]
  exact List.mem_append_right _ (List.mem_cons_of_mem _ hkept)

/-- An address that ends in a slash and a number, after a letter, is sent with this end. -/
theorem exists_target_eq (h : parse? s = some url) (hdigits : ∀ x ∈ digits, x ∈ numberChars)
    (hne : digits ≠ []) (hs : 's' :: '/' :: digits <:+ s.toList) (hhash : '#' ∉ s.toList) :
    ∃ front, url.target = front ++ "/" ++ String.ofList digits := by
  obtain ⟨after, hend, hnohash, hfirst, hpath, hquery⟩ := exists_suffix_of_parse? h hdigits hs hhash
  have hsplit : after.takeWhile isInPath ++ after.dropWhile isInPath = after :=
    List.takeWhile_append_dropWhile
  -- the path goes up to the end or to a question mark, since there is no number sign
  cases hdrop : after.dropWhile isInPath with
  | nil =>
      rw [hdrop, List.append_nil] at hsplit
      rw [hdrop] at hquery
      rw [hsplit] at hpath
      have hslash : ∀ x ∈ after.head?, isSlash x := by
        intro x hx
        have hmem := List.mem_of_mem_head? hx
        rw [← hsplit] at hmem
        have hinPath := List.mem_takeWhile_imp hmem
        simp only [isInPath, Bool.and_eq_true, bne_iff_ne] at hinPath
        simpa [isBeforePath, hinPath.1, hinPath.2] using hfirst x hx
      exact exists_target_of_path hquery (hpath ▸ exists_readPath hdigits hne hslash hend)
  | cons x query =>
      have hmem : x ∈ after := mem_of_mem_dropWhile (hdrop ▸ List.mem_cons_self)
      have hother : x ≠ '#' := by
        rintro rfl
        exact hnohash hmem
      have hhead : x ∈ (after.dropWhile isInPath).head? := by
        rw [hdrop]
        rfl
      obtain rfl : x = '?' := by
        simpa [isInPath, hother] using not_of_mem_head?_dropWhile hhead
      have hplain : ∀ x ∈ numberChars, x ≠ '?' := List.all_iff_forall_prop.1 (by decide)
      have hquestion : '?' ∉ '/' :: digits := by
        rw [List.mem_cons]
        rintro (heq | hmem)
        · cases heq
        · exact hplain _ (hdigits _ hmem) rfl
      rw [hdrop] at hsplit hquery
      refine exists_target_of_query hquery hdigits ?_ (suffix_of_notMem (hsplit ▸ hend) hquestion)
      intro hmem
      apply hnohash
      rw [← hsplit]
      exact List.mem_append_right _ (List.mem_cons_of_mem _ hmem)

end

end Http.Url

end RunnerRelease
