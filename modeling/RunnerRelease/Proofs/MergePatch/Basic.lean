import RunnerRelease.MergePatch
import RunnerRelease.Proofs.Json.Equality
import RunnerRelease.Proofs.Json.Path

/-!
# Merge patches, key by key

What `diff` binds a key to and what `apply` leaves it bound to. Both depend on nothing
but what the key is bound to in the values given, which is what makes members
independent of each other.
-/

namespace RunnerRelease.MergePatch

open Members

/-- The members of the patch that leads from one object to another. -/
def patchMembers (base updated : Members Json) : Members Json :=
  (removals base updated).foldl (fun patch m => insert patch m.1 m.2) (changes base updated)

theorem diff_object (base updated : Members Json) :
    diff (.object base) (.object updated) = .object (patchMembers base updated) := rfl

/-- What a patch binds a key to, from what the two objects bind it to. -/
def difference : Option Json → Option Json → Option Json
  | none, updated => updated
  | some _, none => some .null
  | some previous, some value =>
      if previous.same value then none else some (diff previous value)

/-- What a key is bound to once a patch has been applied. -/
def amended (old : Option Json) : Option Json → Option Json
  | none => old
  | some .null => none
  | some patch => some (apply (old.getD .null) patch)

theorem amended_some {patch : Json} (h : patch ≠ .null) (old : Option Json) :
    amended old (some patch) = some (apply (old.getD .null) patch) := by
  cases patch <;> first | rfl | exact absurd rfl h

@[simp] theorem difference_self (old : Option Json) : difference old old = none := by
  cases old <;> simp [difference]

theorem difference_of_ne {previous value : Json} (hvalue : value.Exact) (h : previous ≠ value) :
    difference (some previous) (some value) = some (diff previous value) := by
  rw [difference, if_neg fun hsame => h (Json.eq_of_same hvalue hsame)]

theorem get?_reverse_removals (base updated : Members Json) (key : String) :
    get? (removals base updated).reverse key =
      if has updated key then none else (get? base key).map fun _ => .null := by
  induction base with
  | nil => simp [removals]
  | cons head rest ih =>
      obtain ⟨k, v⟩ := head
      rw [removals] at ih ⊢
      by_cases hk : has updated k = true
      · rw [List.filterMap_cons_none (by simp [hk]), ih, get?_cons]
        by_cases heq : k = key
        · subst heq
          simp [hk]
        · simp [heq]
      · rw [List.filterMap_cons_some (by simp [hk]; rfl), List.reverse_cons, get?_append, ih,
          get?_cons, get?_cons]
        by_cases heq : k = key
        · subst heq
          cases get? rest k <;> simp [hk]
        · simp [heq]

/-- A member adds a change under its own key, or none. -/
theorem changes_cons_cases (base : Members Json) (m : String × Json) (rest : Members Json) :
    changes base (m :: rest) = changes base rest ∨
      ∃ patch, changes base (m :: rest) = (m.1, patch) :: changes base rest := by
  obtain ⟨k, v⟩ := m
  rw [changes]
  split
  · exact .inr ⟨_, rfl⟩
  · split
    · exact .inl rfl
    · exact .inr ⟨_, rfl⟩

theorem exists_mem_of_mem_changes {base updated : Members Json} {m : String × Json}
    (h : m ∈ changes base updated) : ∃ n ∈ updated, n.1 = m.1 := by
  induction updated with
  | nil => simp [changes] at h
  | cons head rest ih =>
      have hrest (hm : m ∈ changes base rest) : ∃ n ∈ head :: rest, n.1 = m.1 := by
        obtain ⟨n, hn, hkey⟩ := ih hm
        exact ⟨n, List.mem_cons_of_mem _ hn, hkey⟩
      rcases changes_cons_cases base head rest with heq | ⟨patch, heq⟩
      · exact hrest (heq ▸ h)
      · rw [heq] at h
        rcases List.mem_cons.1 h with rfl | hm
        · exact ⟨head, List.mem_cons_self, rfl⟩
        · exact hrest hm

theorem ascending_changes (base : Members Json) {updated : Members Json}
    (h : updated.Ascending) : Ascending (changes base updated) := by
  induction updated with
  | nil => exact ascending_nil
  | cons head rest ih =>
      rcases changes_cons_cases base head rest with heq | ⟨patch, heq⟩
      · rw [heq]
        exact ih h.tail
      · rw [heq]
        refine List.pairwise_cons.2 ⟨fun m hm => ?_, ih h.tail⟩
        obtain ⟨n, hn, hkey⟩ := exists_mem_of_mem_changes hm
        rw [← hkey]
        exact (List.pairwise_cons.1 h).1 n hn

theorem get?_changes (base : Members Json) {updated : Members Json} (h : updated.Ascending)
    (key : String) :
    get? (changes base updated) key =
      (get? updated key).bind fun value => difference (get? base key) (some value) := by
  induction updated with
  | nil => simp [changes]
  | cons head rest ih =>
      obtain ⟨k, v⟩ := head
      have ih := ih (List.pairwise_cons.1 h).2
      rw [changes, get?_cons]
      by_cases hk : k = key
      · subst hk
        rw [get?_tail_eq_none h] at ih
        cases hb : get? base k with
        | none => simp [get?_cons, difference]
        | some previous =>
            by_cases hs : previous.same v = true
            · simp [hs, ih, difference]
            · simp [hs, get?_cons, difference]
      · rw [if_neg hk, ← ih]
        split
        · simp [get?_cons, hk]
        · split
          · rfl
          · simp [get?_cons, hk]

theorem ascending_patchMembers (base : Members Json) {updated : Members Json}
    (h : updated.Ascending) : (patchMembers base updated).Ascending :=
  ascending_foldl_insert _ (ascending_changes base h)

/-- The patch names a key exactly where the two objects differ. -/
theorem get?_patchMembers (base : Members Json) {updated : Members Json}
    (h : updated.Ascending) (key : String) :
    get? (patchMembers base updated) key = difference (get? base key) (get? updated key) := by
  rw [patchMembers, get?_foldl_insert, get?_reverse_removals, get?_changes base h, has]
  cases hu : get? updated key with
  | none => cases hb : get? base key <;> simp [difference]
  | some value => simp

/-- The patch between objects that differ in one member alone names that member alone. -/
theorem diff_object_single {base updated : Members Json} {key : String} {change : Json}
    (h : updated.Ascending)
    (hchange : difference (get? base key) (get? updated key) = some change)
    (hother : ∀ other, key ≠ other → get? updated other = get? base other) :
    diff (.object base) (.object updated) = .object [(key, change)] := by
  rw [diff_object]
  congr 1
  refine ext_get? (ascending_patchMembers base h) (List.pairwise_singleton _ _) fun other => ?_
  rw [get?_patchMembers base h, get?_cons]
  by_cases hk : key = other
  · rw [if_pos hk, ← hk, hchange]
  · rw [if_neg hk, hother other hk, difference_self, get?_nil]

theorem apply_object (target : Json) (patch : Members Json) :
    apply target (.object patch) = .object (applyMembers (target.members?.getD []) patch) := by
  cases target <;> rfl

theorem applyMembers_cons (target : Members Json) (key : String) (patch : Json)
    (rest : Members Json) :
    applyMembers target ((key, patch) :: rest) =
      applyMembers (update target key (amended (get? target key) (some patch))) rest := by
  cases patch <;> rfl

/-- A patch of one member, not null, changes that member. -/
theorem apply_object_single (target : Members Json) (key : String) {patch : Json}
    (h : patch ≠ .null) :
    apply (.object target) (.object [(key, patch)]) =
      .object (insert target key (apply ((get? target key).getD .null) patch)) := by
  cases patch <;> first | rfl | exact absurd rfl h

theorem ascending_applyMembers {target : Members Json} (h : target.Ascending)
    (patch : Members Json) : Ascending (applyMembers target patch) := by
  induction patch generalizing target with
  | nil => exact h
  | cons head rest ih =>
      rw [applyMembers_cons]
      exact ih (ascending_update h _ _)

/-- Applying a patch amends every key by what the patch binds that key to. -/
theorem get?_applyMembers (target : Members Json) {patch : Members Json} (h : patch.Ascending)
    (key : String) :
    get? (applyMembers target patch) key = amended (get? target key) (get? patch key) := by
  induction patch generalizing target with
  | nil => rfl
  | cons head rest ih =>
      obtain ⟨k, v⟩ := head
      rw [applyMembers_cons, ih _ (List.pairwise_cons.1 h).2, get?_update, get?_cons]
      by_cases hk : k = key
      · subst hk
        rw [get?_tail_eq_none h, if_pos rfl, if_pos rfl]
        rfl
      · rw [if_neg hk, if_neg hk]

theorem get?_apply_object (target : Json) {patch : Members Json} (h : patch.Ascending)
    (key : String) :
    (apply target (.object patch)).get? key = amended (target.get? key) (get? patch key) := by
  have htarget : target.get? key = get? (target.members?.getD []) key := by
    cases target <;> rfl
  rw [apply_object, htarget]
  exact get?_applyMembers _ h key

/-- Below a key that a patch names, the patch acts as what it binds the key to. -/
theorem at?_apply_object (target : Json) {patch : Members Json} (h : patch.Ascending)
    {key : String} {inner : Json} (hget : get? patch key = some inner) (hinner : inner ≠ .null)
    (path : List String) :
    (apply target (.object patch)).at? (key :: path) =
      (apply ((target.get? key).getD .null) inner).at? path := by
  rw [Json.at?_cons, get?_apply_object target h, hget, amended_some hinner, Option.bind_some]

/-- A patch that is given one more member, not null, changes that member as well. -/
theorem applyMembers_insert {target patch : Members Json} (htarget : target.Ascending)
    (hpatch : patch.Ascending) (key : String) {value : Json} (hvalue : value ≠ .null) :
    applyMembers target (insert patch key value) =
      insert (applyMembers target patch) key
        (apply ((get? target key).getD .null) value) := by
  refine ext_get? (ascending_applyMembers htarget _)
    (ascending_insert (ascending_applyMembers htarget _) _ _) fun other => ?_
  rw [get?_insert]
  change get? (applyMembers target (insert patch key value)) other = if _ then _ else
    get? (applyMembers target patch) other
  rw [get?_applyMembers _ (ascending_insert hpatch key value), get?_applyMembers _ hpatch,
    get?_insert]
  by_cases hk : key = other
  · subst hk
    rw [if_pos rfl, if_pos rfl, amended_some hvalue]
  · rw [if_neg hk, if_neg hk]

end RunnerRelease.MergePatch
