import Mathlib.Data.List.Count
import RunnerRelease.Proofs.Text.Trim
import RunnerRelease.Scope

/-!
# The grammar of scopes

Three optional parts name a scope exactly if a single one of them leaves a text when it is
trimmed, and this, if it is the one for a repository, has a single slash with text on both sides.
The scope depends on that text alone and is told apart from every other such scope by its path as
well as by the text under which it is shown.

## Implementation notes

The parts are a function on the levels, so that what is said of one level is said of all three.
Paths and shown texts have the same shape, the word for a level and a slash before the text;
`eq_of_word_append` is about that shape. Without the checks on repositories it would not be enough:
an owner `a` with a repository `b/c` has the path of an owner `a/b` with a repository `c`.
-/

namespace RunnerRelease.Scope

/-- The levels at which a runner can be registered. -/
inductive Level where
  | enterprise
  | organization
  | repository
deriving DecidableEq

namespace Level

/-- The word for the level in paths. -/
def pathWord : Level → String
  | enterprise => "enterprises"
  | organization => "orgs"
  | repository => "repos"

/-- The word for the level where a scope is shown. -/
def shownWord : Level → String
  | enterprise => "enterprise"
  | organization => "organization"
  | repository => "repository"

theorem forall_iff {p : Level → Prop} :
    (∀ level, p level) ↔ p .enterprise ∧ p .organization ∧ p .repository := by
  constructor
  · intro h
    exact ⟨h _, h _, h _⟩
  · rintro ⟨henterprise, horganization, hrepository⟩ level
    cases level with
    | enterprise => exact henterprise
    | organization => exact horganization
    | repository => exact hrepository

end Level

/-- What is given at each level. -/
abbrev Parts := Level → Option String

/-- The scope that is named by what is given at the levels. -/
def Parts.scope (parts : Parts) : Except Problem Scope :=
  ofParts (parts .enterprise) (parts .organization) (parts .repository)

/-- A part leaves a text when the blank characters around it are dropped. -/
def Leaves (part : Option String) (text : String) : Prop :=
  ∃ given, part = some given ∧ Text.Trims given.toList text.toList ∧ text ≠ ""

/-- The part of this level leaves a text, and no other part leaves any. -/
structure Parts.Sole (parts : Parts) (level : Level) (text : String) : Prop where
  leaves : Leaves (parts level) text
  alone : ∀ other rest, Leaves (parts other) rest → other = level

/-- The parts of which one is this text and the others are not given. -/
def Parts.only (level : Level) (text : String) : Parts :=
  fun other => if other = level then some text else none

/-- The parts with something before and after each of those that are given. -/
def Parts.pad (parts : Parts) (before after : Level → String) : Parts :=
  fun level => (parts level).map fun given => before level ++ given ++ after level

/-- A text names a scope at a level. -/
inductive Names : Level → String → Scope → Prop
  | enterprise (slug : String) : Names .enterprise slug (.enterprise slug)
  | organization (name : String) : Names .organization name (.organization name)
  | repository {owner name : String} (howner : owner ≠ "" ∧ '/' ∉ owner.toList)
      (hname : name ≠ "" ∧ '/' ∉ name.toList) :
      Names .repository (owner ++ "/" ++ name) (.repository owner name)

/-- A text has exactly one slash, which is neither its first character nor its last one. -/
def HasInnerSlash (text : String) : Prop :=
  text.toList.count '/' = 1 ∧ text.toList.head? ≠ some '/' ∧ text.toList.getLast? ≠ some '/'

variable {parts : Parts} {level : Level} {text : String} {scope : Scope} {part : Option String}
  {cs before after : List Char}

theorem populated_eq_some_iff : populated part = some text ↔ Leaves part text := by
  rw [populated, Option.filter_eq_some_iff, Option.map_eq_some_iff]
  constructor
  · rintro ⟨⟨given, hgiven, rfl⟩, hne⟩
    refine ⟨given, hgiven, ?_, by simpa using hne⟩
    rw [← Text.trimChars_eq_iff, Text.trim, String.toList_ofList]
  · rintro ⟨given, hgiven, htrims, hne⟩
    refine ⟨⟨given, hgiven, ?_⟩, by simpa using hne⟩
    rw [Text.trim, Text.trimChars_eq_iff.2 htrims, String.ofList_toList]

theorem populated_eq_none_iff : populated part = none ↔ ∀ text, ¬ Leaves part text := by
  simp [Option.eq_none_iff_forall_ne_some, populated_eq_some_iff]

/-- A text is split at its first slash. -/
theorem splitSlash_eq_some_iff :
    splitSlash cs = some (before, after) ↔ cs = before ++ '/' :: after ∧ '/' ∉ before := by
  induction cs generalizing before with
  | nil => simp [splitSlash]
  | cons c rest ih =>
      rw [splitSlash]
      by_cases hslash : c = '/'
      · cases before with
        | nil => simp [hslash]
        | cons d before =>
            rw [if_pos hslash]
            simp only [Option.some.injEq, Prod.mk.injEq, List.cons_append, List.cons.injEq,
              List.mem_cons, not_or]
            constructor
            · rintro ⟨hnil, -⟩
              cases hnil
            · rintro ⟨⟨rfl, -⟩, hd, -⟩
              exact absurd hslash.symm hd
      · rw [if_neg hslash, Option.map_eq_some_iff]
        constructor
        · rintro ⟨⟨first, second⟩, hsplit, hpair⟩
          obtain ⟨rfl, rfl⟩ := Prod.mk.inj hpair
          obtain ⟨rfl, hfirst⟩ := ih.1 hsplit
          exact ⟨rfl, by simp [Ne.symm hslash, hfirst]⟩
        · rintro ⟨hcs, hbefore⟩
          cases before with
          | nil => exact absurd (List.cons.inj hcs).1 hslash
          | cons d before =>
              obtain ⟨rfl, hrest⟩ := List.cons.inj hcs
              rw [List.mem_cons, not_or] at hbefore
              exact ⟨(before, after), ih.2 ⟨hrest, hbefore.2⟩, rfl⟩

theorem toList_repositoryText (owner name : String) :
    (owner ++ "/" ++ name).toList = owner.toList ++ '/' :: name.toList := by
  simp

/-- A repository is named by its owner and its name with the only slash between them. -/
theorem ofRepository_eq_ok_iff : ofRepository text = .ok scope ↔ Names .repository text scope := by
  constructor
  · intro h
    rw [ofRepository] at h
    split at h
    · rename_i owner name hsplit
      obtain ⟨htext, howner⟩ := splitSlash_eq_some_iff.1 hsplit
      split at h
      · cases h
      · rename_i hparts
        cases h
        simp only [Bool.or_eq_true, List.isEmpty_iff, List.contains_iff_mem, not_or] at hparts
        have hspelled : text = .ofList owner ++ "/" ++ .ofList name := by
          rw [← String.toList_inj, toList_repositoryText, String.toList_ofList,
            String.toList_ofList, htext]
        rw [hspelled]
        apply Names.repository
        · exact ⟨by simpa using hparts.1.1, by simpa using howner⟩
        · exact ⟨by simpa using hparts.1.2, by simpa using hparts.2⟩
    · cases h
  · intro h
    cases h with
    | @repository owner name howner hname =>
        have hsplit : splitSlash (owner ++ "/" ++ name).toList =
            some (owner.toList, name.toList) :=
          splitSlash_eq_some_iff.2 ⟨toList_repositoryText owner name, howner.2⟩
        rw [ofRepository, hsplit]
        simp [howner.1, hname.1, hname.2]

/-- A text names at most one scope at a level. -/
theorem Names.eq {other : Scope} (h : Names level text scope) (hother : Names level text other) :
    scope = other := by
  cases level with
  | enterprise =>
      cases h
      cases hother
      rfl
  | organization =>
      cases h
      cases hother
      rfl
  | repository =>
      rw [← ofRepository_eq_ok_iff] at h hother
      exact Except.ok.inj (h.symm.trans hother)

theorem Names.hasInnerSlash (h : Names .repository text scope) : HasInnerSlash text := by
  cases h with
  | @repository owner name howner hname =>
      have howner' : owner.toList ≠ [] := by simpa using howner.1
      have hname' : name.toList ≠ [] := by simpa using hname.1
      rw [HasInnerSlash, toList_repositoryText]
      refine ⟨?_, ?_, ?_⟩
      · rw [List.count_append, List.count_cons_self, List.count_eq_zero.2 howner.2,
          List.count_eq_zero.2 hname.2]
      · rw [List.head?_append_of_ne_nil _ howner']
        exact fun hhead => howner.2 (List.mem_of_head? hhead)
      · rw [List.getLast?_append_of_ne_nil _ (List.cons_ne_nil _ _),
          List.getLast?_cons_of_ne_nil hname']
        exact fun hlast => hname.2 (List.mem_of_getLast? hlast)

/-- A text with one slash inside is that of the owner before it and the name after it. -/
theorem HasInnerSlash.exists_names (h : HasInnerSlash text) :
    ∃ scope, Names .repository text scope := by
  obtain ⟨hcount, hhead, hlast⟩ := h
  have hmem : '/' ∈ text.toList := List.count_pos_iff.1 (by omega)
  obtain ⟨owner, name, htext, howner⟩ := List.eq_append_cons_of_mem hmem
  rw [htext] at hcount hhead hlast
  rw [List.count_append, List.count_cons_self, List.count_eq_zero.2 howner] at hcount
  have hname : '/' ∉ name := List.count_eq_zero.1 (by omega)
  have howner' : owner ≠ [] := by
    rintro rfl
    exact hhead rfl
  have hname' : name ≠ [] := by
    rintro rfl
    exact hlast List.getLast?_concat
  have hspelled : text = .ofList owner ++ "/" ++ .ofList name := by
    rw [← String.toList_inj, toList_repositoryText, String.toList_ofList, String.toList_ofList,
      htext]
  refine ⟨.repository (.ofList owner) (.ofList name), hspelled ▸ .repository ?_ ?_⟩
  · exact ⟨by simpa using howner', by simpa using howner⟩
  · exact ⟨by simpa using hname', by simpa using hname⟩

/-- Every text names an enterprise and an organization, a repository only one with one slash. -/
theorem exists_names_iff :
    (∃ scope, Names level text scope) ↔ (level = .repository → HasInnerSlash text) := by
  cases level with
  | enterprise =>
      refine iff_of_true ⟨_, .enterprise text⟩ ?_
      rintro ⟨⟩
  | organization =>
      refine iff_of_true ⟨_, .organization text⟩ ?_
      rintro ⟨⟩
  | repository =>
      constructor
      · rintro ⟨scope, h⟩ -
        exact h.hasInnerSlash
      · intro h
        exact (h rfl).exists_names

theorem Parts.sole_iff :
    parts.Sole level text ↔ populated (parts level) = some text ∧
      ∀ other, other ≠ level → populated (parts other) = none := by
  constructor
  · rintro ⟨hleaves, halone⟩
    refine ⟨populated_eq_some_iff.2 hleaves, fun other hother => ?_⟩
    rw [populated_eq_none_iff]
    exact fun rest hrest => hother (halone other rest hrest)
  · rintro ⟨hlevel, hothers⟩
    refine ⟨populated_eq_some_iff.1 hlevel, fun other rest hrest => ?_⟩
    by_contra hother
    exact populated_eq_none_iff.1 (hothers other hother) rest hrest

/-- The scope is the one that the text of the only part with a text names. -/
theorem Parts.scope_eq_ok_iff :
    parts.scope = .ok scope ↔ ∃ level text, parts.Sole level text ∧ Names level text scope := by
  constructor
  · intro h
    rw [Parts.scope, ofParts] at h
    split at h
    · rename_i slug hslug horganization hrepository
      cases h
      refine ⟨.enterprise, slug, sole_iff.2 ⟨hslug, ?_⟩, .enterprise slug⟩
      simp [Level.forall_iff, horganization, hrepository]
    · rename_i name henterprise hname hrepository
      cases h
      refine ⟨.organization, name, sole_iff.2 ⟨hname, ?_⟩, .organization name⟩
      simp [Level.forall_iff, henterprise, hrepository]
    · rename_i text henterprise horganization htext
      refine ⟨.repository, text, sole_iff.2 ⟨htext, ?_⟩, ofRepository_eq_ok_iff.1 h⟩
      simp [Level.forall_iff, henterprise, horganization]
    · cases h
    · cases h
  · rintro ⟨level, text, hsole, hnames⟩
    obtain ⟨hlevel, hothers⟩ := sole_iff.1 hsole
    rw [Parts.scope, ofParts]
    cases level with
    | enterprise =>
        cases hnames
        rw [hlevel, hothers .organization nofun, hothers .repository nofun]
    | organization =>
        cases hnames
        rw [hlevel, hothers .enterprise nofun, hothers .repository nofun]
    | repository =>
        rw [hlevel, hothers .enterprise nofun, hothers .organization nofun]
        exact ofRepository_eq_ok_iff.2 hnames

/-- The text that a part leaves, given alone, leaves itself. -/
theorem Parts.Sole.only (h : parts.Sole level text) : (Parts.only level text).Sole level text where
  leaves := by
    obtain ⟨_, -, htrims, hne⟩ := h.leaves
    exact ⟨text, if_pos rfl, htrims.self, hne⟩
  alone := by
    rintro other rest ⟨given, hgiven, -⟩
    by_contra hother
    rw [Parts.only, if_neg hother] at hgiven
    cases hgiven

theorem populated_pad {before after : String} (hbefore : Text.IsBlank before.toList)
    (hafter : Text.IsBlank after.toList) (part : Option String) :
    populated (part.map fun given => before ++ given ++ after) = populated part := by
  have htrim (given : String) : Text.trim (before ++ given ++ after) = Text.trim given := by
    rw [Text.trim, String.toList_append, String.toList_append, List.append_assoc,
      Text.trimChars_append hbefore hafter, Text.trim]
  cases part with
  | none => rfl
  | some given => simp only [populated, Option.map_some, htrim]

/-- Blank characters around the parts change nothing, be there a scope or not. -/
theorem Parts.scope_pad {before after : Level → String}
    (h : ∀ level, Text.IsBlank (before level).toList ∧ Text.IsBlank (after level).toList)
    (parts : Parts) : (parts.pad before after).scope = parts.scope := by
  have hpopulated (level : Level) :
      populated (parts.pad before after level) = populated (parts level) :=
    populated_pad (h level).1 (h level).2 (parts level)
  simp only [Parts.scope, ofParts, hpopulated]

/-- A level and a text can be told from the word for the level with a slash before the text. -/
theorem eq_of_word_append {word : Level → String} (hword : Function.Injective word)
    (hslash : ∀ level, '/' ∉ (word level).toList) {other : Level} {rest : String}
    (h : word level ++ "/" ++ text = word other ++ "/" ++ rest) : level = other ∧ text = rest := by
  have hsplit (level : Level) (text : String) :
      splitSlash (word level ++ "/" ++ text).toList = some ((word level).toList, text.toList) :=
    splitSlash_eq_some_iff.2 ⟨toList_repositoryText _ _, hslash level⟩
  have hpair := hsplit level text
  rw [h, hsplit, Option.some.injEq, Prod.mk.injEq, String.toList_inj, String.toList_inj] at hpair
  exact ⟨hword hpair.1.symm, hpair.2.symm⟩

theorem Names.apiPath_eq (h : Names level text scope) :
    scope.apiPath = level.pathWord ++ "/" ++ text := by
  cases h with
  | repository => simp [apiPath, Level.pathWord, String.append_assoc]
  | _ => rfl

theorem Names.render_eq (h : Names level text scope) :
    scope.render = level.shownWord ++ "/" ++ text := by
  cases h with
  | repository => simp [render, Level.shownWord, String.append_assoc]
  | _ => rfl

/-- Scopes that are named by parts are told apart by their paths and by how they are shown. -/
theorem Parts.eq_of_printed {other : Parts} {found : Scope} (h : parts.scope = .ok scope)
    (hfound : other.scope = .ok found)
    (hsame : scope.apiPath = found.apiPath ∨ scope.render = found.render) : scope = found := by
  obtain ⟨level, text, -, hnames⟩ := scope_eq_ok_iff.1 h
  obtain ⟨level', text', -, hnames'⟩ := scope_eq_ok_iff.1 hfound
  obtain ⟨rfl, rfl⟩ : level = level' ∧ text = text' := by
    rcases hsame with hpath | hshown
    · rw [hnames.apiPath_eq, hnames'.apiPath_eq] at hpath
      exact eq_of_word_append (by intro a b; cases a <;> cases b <;> decide)
        (by intro a; cases a <;> decide) hpath
    · rw [hnames.render_eq, hnames'.render_eq] at hshown
      exact eq_of_word_append (by intro a b; cases a <;> cases b <;> decide)
        (by intro a; cases a <;> decide) hshown
  exact hnames.eq hnames'

/-- Scopes that no parts have named can share a path. -/
example : (Scope.repository "a/b" "c").apiPath = (Scope.repository "a" "b/c").apiPath := by decide

/--
Parts name a scope exactly if a single one of them leaves a text when it is trimmed, which has one
slash with text on both sides if it is the part for a repository. The scope is the only one that
this text names. Its path and the text under which it is shown are the word for its level, a slash
and this text. The same scope is named by this text alone, and blank characters around any part
make no difference. No other parts name another scope with the same path or shown in the same way.
-/
theorem sole_part_names_scope (parts : Parts) :
    ((∃ scope, parts.scope = .ok scope) ↔
      ∃ level text, parts.Sole level text ∧ (level = .repository → HasInnerSlash text)) ∧
    (∀ scope, parts.scope = .ok scope ↔
      ∃ level text, parts.Sole level text ∧ Names level text scope) ∧
    (∀ level text scope, parts.Sole level text → Names level text scope →
      (∀ other, Names level text other → other = scope) ∧
        scope.apiPath = level.pathWord ++ "/" ++ text ∧
        scope.render = level.shownWord ++ "/" ++ text ∧
        (Parts.only level text).scope = .ok scope) ∧
    (∀ before after : Level → String,
      (∀ level, Text.IsBlank (before level).toList ∧ Text.IsBlank (after level).toList) →
        (parts.pad before after).scope = parts.scope) ∧
    ∀ other : Parts, ∀ scope found, parts.scope = .ok scope → other.scope = .ok found →
      (scope.apiPath = found.apiPath ∨ scope.render = found.render) → scope = found := by
  refine ⟨?_, fun scope => Parts.scope_eq_ok_iff, ?_, fun before after h => Parts.scope_pad h parts,
    fun other scope found h hfound hsame => Parts.eq_of_printed h hfound hsame⟩
  · constructor
    · rintro ⟨scope, h⟩
      obtain ⟨level, text, hsole, hnames⟩ := Parts.scope_eq_ok_iff.1 h
      exact ⟨level, text, hsole, exists_names_iff.1 ⟨scope, hnames⟩⟩
    · rintro ⟨level, text, hsole, htext⟩
      obtain ⟨scope, hnames⟩ := exists_names_iff.2 htext
      exact ⟨scope, Parts.scope_eq_ok_iff.2 ⟨level, text, hsole, hnames⟩⟩
  · intro level text scope hsole hnames
    refine ⟨fun other hother => hother.eq hnames, hnames.apiPath_eq, hnames.render_eq, ?_⟩
    exact Parts.scope_eq_ok_iff.2 ⟨level, text, hsole.only, hnames⟩

/--
A repository is named with blank characters around it beside a blank organization. The text that is
left names it alone, and no other parts name a scope with its path.
-/
theorem sole_part_names_padded_repository :
    let parts : Parts := fun
      | .enterprise => none
      | .organization => some " \t"
      | .repository => some "\u00a0acme/widgets\n"
    parts.scope = .ok (.repository "acme" "widgets") ∧
      (∃ level text, (Parts.only level text).scope = .ok (.repository "acme" "widgets") ∧
        "repos/acme/widgets" = level.pathWord ++ "/" ++ text) ∧
      ∀ other : Parts, ∀ found, other.scope = .ok found → found.apiPath = "repos/acme/widgets" →
        found = .repository "acme" "widgets" := by
  intro parts
  have hscope : parts.scope = .ok (.repository "acme" "widgets") := by decide +kernel
  obtain ⟨-, hnamed, hprinted, -, htold⟩ := sole_part_names_scope parts
  refine ⟨hscope, ?_, ?_⟩
  · obtain ⟨level, text, hsole, hnames⟩ := (hnamed _).1 hscope
    obtain ⟨-, hpath, -, honly⟩ := hprinted level text _ hsole hnames
    exact ⟨level, text, honly, hpath⟩
  · intro other found hfound hpath
    exact (htold other _ found hscope hfound (.inl hpath.symm)).symm

end RunnerRelease.Scope
