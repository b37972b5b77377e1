import RunnerRelease.Proofs.Http.Path

/-!
# Segments of a target

An address that is put together of a scheme, a host and texts with slashes before them is sent
with these texts as the segments of its path if and only if each of them stands for itself.

## Implementation notes

The host is taken as it stands, with a user and a port if it has them: what can be told of the
path does not depend on them. If the address cannot be read there is no target either.
-/

namespace RunnerRelease.Http.Url

open Text

variable {s : String} {c : Char} {cs : List Char} {url : Url}

/-- The segments of the path of a target, in bytes. -/
def segments (target : String) : List Bytes :=
  (splitWhere (· == '/') ((target.toList.takeWhile (· != '?')).drop 1)).map percentDecode

theorem readPath_ne_nil (cs : List Char) : readPath cs ≠ [] := by
  cases cs with
  | nil => exact List.cons_ne_nil _ _
  | cons c rest => exact resolve_ne_nil [] (splitWhere_ne_nil _ _)

theorem mem_percentEncode {x : Char} (h : x ∈ percentEncode c) :
    x = '%' ∨ x ∈ "0123456789ABCDEF".toList := by
  have hdigit (n : Nat) : "0123456789ABCDEF".toList.getD n '0' ∈ "0123456789ABCDEF".toList := by
    rw [List.getD_eq_getElem?_getD]
    cases hget : "0123456789ABCDEF".toList[n]? with
    | none => decide
    | some digit => exact List.mem_of_getElem? hget
  obtain ⟨byte, -, hx⟩ := List.mem_flatMap.1 h
  rcases List.mem_cons.1 hx with rfl | hx
  · exact .inl rfl
  · right
    rw [hexOctet, List.mem_cons, List.mem_singleton] at hx
    rcases hx with rfl | rfl
    · exact hdigit _
    · exact hdigit _

/-- No segment of a path holds a character that would end it. -/
theorem ne_of_mem_readPath {segment : String} (h : segment ∈ readPath cs)
    (hc : c ∈ segment.toList) : c ≠ '/' ∧ c ≠ '?' := by
  have hsegment : segment = "" ∨ ∃ part, (∀ x ∈ part, ¬ isSlash x) ∧ segment = segmentOf part := by
    cases cs with
    | nil => exact .inl (by simpa [readPath] using h)
    | cons x rest =>
        rcases exists_of_mem_resolve h with hempty | ⟨part, hpart, heq⟩
        · exact .inl (by simpa using hempty)
        · exact .inr ⟨part, fun x hx => not_of_mem_splitWhere hpart hx, heq⟩
  rcases hsegment with rfl | ⟨part, hplain, rfl⟩
  · cases hc
  · rw [segmentOf, String.toList_ofList] at hc
    obtain ⟨x, hx, hcx⟩ := List.mem_flatMap.1 hc
    split at hcx
    · have hchars : ∀ x ∈ '%' :: "0123456789ABCDEF".toList, x ≠ '/' ∧ x ≠ '?' :=
        List.all_iff_forall_prop.1 (by decide)
      exact hchars c (List.mem_cons.2 (mem_percentEncode hcx))
    · rename_i hencoded
      obtain rfl := List.mem_singleton.1 hcx
      constructor
      · rintro rfl
        exact hplain _ hx (by decide)
      · rintro rfl
        exact hencoded (by decide)

theorem toList_pathText (url : Url) :
    url.pathText.toList = slashed (url.path.map String.toList) := by
  rw [pathText]
  induction url.path with
  | nil => rfl
  | cons segment path ih =>
      rw [List.map_cons, String.join_cons, String.toList_append, ih, List.map_cons, slashed_cons]
      simp

/-- The path of an address ends where a query begins. -/
theorem ne_of_mem_pathText (h : ∀ segment ∈ url.path, ∀ c ∈ segment.toList, c ≠ '/' ∧ c ≠ '?')
    (hc : c ∈ url.pathText.toList) : c ≠ '?' := by
  rw [toList_pathText] at hc
  rcases eq_or_exists_of_mem_slashed hc with rfl | ⟨part, hpart, hpartc⟩
  · decide
  · obtain ⟨segment, hsegment, rfl⟩ := List.mem_map.1 hpart
    exact (h segment hsegment c hpartc).2

/-- The segments of the path of a target are those of the address. -/
theorem segments_target (hne : url.path ≠ [])
    (h : ∀ segment ∈ url.path, ∀ c ∈ segment.toList, c ≠ '/' ∧ c ≠ '?') :
    segments url.target = decoded url.path := by
  have hplain : ∀ c ∈ url.pathText.toList, (c != '?') = true := by
    intro c hc
    exact bne_iff_ne.2 (ne_of_mem_pathText h hc)
  have hpath : url.target.toList.takeWhile (· != '?') = url.pathText.toList := by
    rw [target]
    split
    · exact List.takeWhile_eq_self_iff.2 hplain
    · exact List.takeWhile_eq_self_iff.2 hplain
    · rw [String.append_assoc, String.toList_append, List.takeWhile_append_of_pos hplain]
      simp
  rw [segments, hpath, toList_pathText]
  obtain ⟨first, rest, hrest⟩ := List.exists_cons_of_ne_nil hne
  rw [hrest, List.map_cons, slashed_cons, List.drop_one, List.tail_cons,
    splitWhere_slashed (by decide)]
  · rw [decoded, List.map_cons, List.map_cons, List.map_map]
    rfl
  · intro part hpart c hc
    rw [← List.map_cons, ← hrest] at hpart
    obtain ⟨segment, hsegment, rfl⟩ := List.mem_map.1 hpart
    simpa using (h segment hsegment c hc).1

/-- An address that is just a scheme and a host. -/
def IsOrigin (base : String) : Prop :=
  ∃ scheme host : List Char, base.toList = scheme ++ ':' :: '/' :: '/' :: host ∧
    (∀ c ∈ scheme, 0x20 < c.toNat ∧ c ≠ ':') ∧ host ≠ [] ∧
    ∀ c ∈ host, 0x20 < c.toNat ∧ isBeforePath c

/-- Only tabs and line ends are dropped from a text with visible characters at both ends. -/
theorem clean_eq_filter {front tail : List Char} (hs : s.toList = front ++ tail)
    (hfirst : ∀ c ∈ s.toList.head?, 0x20 < c.toNat) (hne : tail ≠ [])
    (htail : ∀ c ∈ tail, 0x20 < c.toNat) : clean s = s.toList.filter isKept := by
  have hbegin : s.toList.dropWhile (fun c => decide (c.toNat ≤ 0x20)) = s.toList := by
    cases htext : s.toList with
    | nil => rfl
    | cons c rest =>
        rw [htext] at hfirst
        exact List.dropWhile_cons_of_neg (by simpa using hfirst c rfl)
  have hend : ((front ++ tail).reverse.dropWhile fun c => decide (c.toNat ≤ 0x20)).reverse =
      front ++ tail := reverse_dropWhile_reverse front hne (by simpa using htail)
  rw [clean, hbegin, hs, hend]
  rfl

/-- What follows the first colon of a text. -/
theorem eq_of_append_colon {name scheme rest text : List Char}
    (h : name ++ ':' :: rest = scheme ++ ':' :: text) (hname : ':' ∉ name)
    (hscheme : ':' ∉ scheme) : rest = text := by
  have hbefore {front back : List Char} (hfront : ':' ∉ front) :
      (front ++ ':' :: back).takeWhile (· != ':') = front := by
    rw [List.takeWhile_append_of_pos]
    · simp
    · intro c hc
      rw [bne_iff_ne]
      rintro rfl
      exact hfront hc
  have hsame := congrArg (List.takeWhile (· != ':')) h
  rw [hbefore hname, hbefore hscheme] at hsame
  rw [hsame, List.append_cancel_left_eq] at h
  exact (List.cons.inj h).2

/-- What follows the host of an address. -/
theorem dropWhile_host {host text : List Char} (hne : host ≠ [])
    (hhost : ∀ c ∈ host, isBeforePath c) (htext : ∀ c ∈ text.head?, ¬ isBeforePath c) :
    (('/' :: '/' :: (host ++ text)).dropWhile isSlash).dropWhile isBeforePath = text := by
  obtain ⟨c, rest, rfl⟩ := List.exists_cons_of_ne_nil hne
  have hslash : ¬ isSlash c := by
    intro hc
    simpa [isBeforePath, hc] using hhost c List.mem_cons_self
  rw [List.dropWhile_cons_of_pos (by decide), List.dropWhile_cons_of_pos (by decide),
    List.cons_append, List.dropWhile_cons_of_neg hslash, ← List.cons_append,
    List.dropWhile_append_of_pos hhost]
  cases text with
  | nil => rfl
  | cons x text => exact List.dropWhile_cons_of_neg (htext x rfl)

/-- The path and the query of an address are read from the texts that follow its host. -/
theorem rest_of_parse? {base : String} {texts : List String} (hbase : IsOrigin base)
    (h : parse? s = some url)
    (hs : s.toList = base.toList ++ slashed (texts.map String.toList)) (hne : texts ≠ [])
    (hlast : ∀ text ∈ texts.getLast?, ∀ c ∈ text.toList, 0x20 < c.toNat) :
    url.path = pathOf (texts.map String.toList) ∧ url.query =
      readQuery (((slashed (texts.map String.toList)).filter isKept).dropWhile isInPath) := by
  obtain ⟨scheme, host, hbase, hscheme, hhost, hvisible⟩ := hbase
  obtain ⟨name, rest, after, hname, hcolon, rfl, hpath, hquery⟩ := exists_rest_of_parse? h
  rw [hbase] at hs
  have hclean : clean s = s.toList.filter isKept := by
    obtain ⟨front, last, rfl⟩ : ∃ front last, texts = front ++ [last] :=
      ⟨_, _, (List.dropLast_concat_getLast hne).symm⟩
    rw [slashed, List.map_append, List.flatMap_append, ← List.append_assoc, List.map_singleton,
      List.flatMap_singleton] at hs
    apply clean_eq_filter hs
    · rw [hs]
      cases scheme with
      | nil => simp
      | cons c scheme => simpa using (hscheme c List.mem_cons_self).1
    · simp
    · simpa using hlast last (by simp)
  have hrest : rest =
      '/' :: '/' :: (host ++ (slashed (texts.map String.toList)).filter isKept) := by
    apply eq_of_append_colon _ hcolon fun hmem => (hscheme _ hmem).2 rfl
    rw [← hname, hclean, hs, List.append_assoc, List.filter_append,
      filter_isKept_of_visible fun c hc => (hscheme c hc).1]
    simp [isKept, filter_isKept_of_visible fun c hc => (hvisible c hc).1]
  have hslash :
      ∀ c ∈ ((slashed (texts.map String.toList)).filter isKept).head?, ¬ isBeforePath c := by
    obtain ⟨first, more, rfl⟩ := List.exists_cons_of_ne_nil hne
    rw [List.map_cons, slashed_cons, List.filter_cons_of_pos (by decide)]
    intro c hc
    obtain rfl := Option.some.inj hc
    decide
  rw [hpath, hquery, hrest, dropWhile_host hhost (fun c hc => (hvisible c hc).2) hslash]
  exact ⟨rfl, rfl⟩

section

variable {base : String} {texts : List String} (hbase : IsOrigin base) (h : parse? s = some url)
  (hs : s.toList = base.toList ++ slashed (texts.map String.toList)) (hne : texts ≠ [])
  (hlast : ∀ text ∈ texts.getLast?, ∀ c ∈ text.toList, 0x20 < c.toNat)

include hbase h hs hne hlast

/--
The segments of the target are the texts that follow the scheme and host of the address if and
only if each text stands for itself, whatever is added to the query.
-/
theorem segments_target_iff {sent : Url} (hsent : sent.path = url.path) :
    segments sent.target = texts.map toBytes ↔ ∀ text ∈ texts, IsSegment text.toList := by
  have hpath := (rest_of_parse? hbase h hs hne hlast).1
  have hbytes : texts.map toBytes =
      (texts.map String.toList).map (List.flatMap String.utf8EncodeChar) := by
    rw [List.map_map]
    exact List.map_congr_left fun text _ => toBytes_eq_flatMap text
  rw [segments_target, hsent, hpath, hbytes, decoded_pathOf_iff (by simpa using hne)]
  · exact List.forall_mem_map
  · rw [hsent, hpath]
    exact readPath_ne_nil _
  · rw [hsent, hpath]
    exact fun segment hsegment c hc => ne_of_mem_readPath hsegment hc

/-- An address of texts that stand for themselves has a path with these segments and no query. -/
theorem path_of_isSegment (htexts : ∀ text ∈ texts, IsSegment text.toList) :
    url.query = none ∧ '?' ∉ url.pathText.toList ∧ segments url.pathText = texts.map toBytes := by
  obtain ⟨hpath, hquery⟩ := rest_of_parse? hbase h hs hne hlast
  have hkept : ∀ c ∈ (slashed (texts.map String.toList)).filter isKept, isInPath c := by
    intro c hc
    rcases eq_or_exists_of_mem_slashed (List.mem_filter.1 hc).1 with rfl | ⟨part, hpart, hmem⟩
    · decide
    · obtain ⟨text, htext, rfl⟩ := List.mem_map.1 hpart
      exact (isPlain_iff.1 ((htexts text htext).plain c hmem)).2.1
  have hnone : url.query = none := by
    rw [hquery, List.dropWhile_eq_nil_iff.2 hkept]
    rfl
  have htarget : url.target = url.pathText := by
    rw [target, hnone]
  refine ⟨hnone, ?_, ?_⟩
  · intro hquestion
    refine ne_of_mem_pathText ?_ hquestion rfl
    rw [hpath]
    exact fun segment hsegment c hc => ne_of_mem_readPath hsegment hc
  · rw [← htarget]
    exact (segments_target_iff hbase h hs hne hlast rfl).2 htexts

end

end RunnerRelease.Http.Url
