import RunnerRelease.Proofs.MergePatch.Basic

/-!
# Patches lead where they were made to lead

Applying the difference of two values to the first gives the second, unless an object
of the second has a null member: null stands for removal and cannot be written.

## Implementation notes

`diff` branches on both values being objects, `apply` on the patch being one. They meet
key by key in `amended_difference`, which the induction over the updated value serves.
A member that `diff` copies whole becomes a patch against nothing, so a value without
null members has to survive being applied as a patch; that is
`apply_null_of_noNullMember`.
-/

namespace RunnerRelease

namespace Json

mutual

/-- No object that is reached through members alone has a member that is null. -/
def NoNullMember : Json → Prop
  | .object ms => NoNullAmong ms
  | _ => True

/-- No member is null, and none has a null member within. -/
def NoNullAmong : List (String × Json) → Prop
  | [] => True
  | (_, v) :: rest => v ≠ .null ∧ NoNullMember v ∧ NoNullAmong rest

end

theorem noNullMember_object_iff {ms : Members Json} :
    NoNullMember (.object ms) ↔ ∀ m ∈ ms, m.2 ≠ .null ∧ NoNullMember m.2 := by
  rw [NoNullMember]
  induction ms with
  | nil => simp [NoNullAmong]
  | cons head rest ih => simp [NoNullAmong, ih, and_assoc]

end Json

namespace MergePatch

open Members Json

/-- A difference is null only where the updated value is. -/
theorem diff_ne_null (base : Json) {updated : Json} (h : updated ≠ .null) :
    diff base updated ≠ .null := by
  cases updated with
  | null => exact absurd rfl h
  | object ms => cases base <;> simp [diff]
  | _ => simp [diff]

/-- A value without null members, applied as a patch where nothing was, gives itself. -/
theorem apply_null_of_noNullMember {v : Json} (hc : v.Canonical) (hn : v.NoNullMember) :
    apply .null v = v := by
  induction v using nested_induction with
  | object ms ih =>
      rw [canonical_object_iff] at hc
      rw [noNullMember_object_iff] at hn
      rw [apply_object]
      congr 1
      refine ext_get? (ascending_applyMembers ascending_nil ms) hc.1 fun key => ?_
      change get? (applyMembers [] ms) key = get? ms key
      rw [get?_applyMembers _ hc.1, get?_nil]
      cases hg : get? ms key with
      | none => rfl
      | some w =>
          have hm := mem_of_get? hg
          rw [amended_some (hn _ hm).1]
          exact congrArg some (ih _ hm (hc.2 _ hm) (hn _ hm).2)
  | _ => rfl

/-- What a patch does to a value that is no object, it does to nothing. -/
theorem apply_of_members?_eq_none {target : Json} (h : target.members? = none) (patch : Json) :
    apply target patch = apply .null patch := by
  cases patch with
  | object ms => rw [apply_object, apply_object, h]; rfl
  | _ => rfl

/-- The patch between values that are not both objects is the updated value itself. -/
theorem diff_of_members?_eq_none {base : Json} (h : base.members? = none) (updated : Json) :
    diff base updated = updated := by
  cases updated with
  | object ms => cases base <;> first | rfl | cases h
  | _ => rfl

/-- At every key, amending by the difference gives what the updated object has there. -/
theorem amended_difference {old new : Option Json}
    (hcanonical : ∀ v, new = some v → v.Canonical)
    (hnull : ∀ v, new = some v → v ≠ .null ∧ v.NoNullMember)
    (ih : ∀ p v, old = some p → new = some v → (apply p (diff p v)).same v = true) :
    Option.Rel (fun v w => v.same w = true) (amended old (difference old new)) new := by
  cases new with
  | none => cases old <;> exact .none
  | some value =>
      obtain ⟨hne, hn⟩ := hnull value rfl
      cases old with
      | none =>
          rw [difference, amended_some hne]
          refine .some ?_
          rw [Option.getD_none, apply_null_of_noNullMember (hcanonical value rfl) hn]
          exact same_refl value
      | some previous =>
          rw [difference]
          by_cases hsame : previous.same value = true
          · rw [if_pos hsame]
            exact .some hsame
          · rw [if_neg hsame, amended_some (diff_ne_null previous hne)]
            exact .some (ih previous value rfl rfl)

/--
Applying the difference of two values to the first gives the second, whatever kinds of
values they are, provided that the second has no null members.
-/
theorem apply_diff_same {base updated : Json} (hbase : base.Canonical)
    (hupdated : updated.Canonical) (hnull : updated.NoNullMember) :
    (apply base (diff base updated)).same updated = true := by
  induction updated using nested_induction generalizing base with
  | object new ih =>
      rw [canonical_object_iff] at hupdated
      cases hold : base.members? with
      | none =>
          rw [diff_of_members?_eq_none hold, apply_of_members?_eq_none hold,
            apply_null_of_noNullMember (canonical_object_iff.2 hupdated) hnull]
          exact same_refl _
      | some old =>
          obtain rfl : base = .object old := by cases base <;> simp_all [members?]
          rw [canonical_object_iff] at hbase
          rw [noNullMember_object_iff] at hnull
          rw [diff_object, apply_object]
          refine same_object_of_get? (ascending_applyMembers hbase.1 _) hupdated.1 fun key => ?_
          change Option.Rel _ (get? (applyMembers old (patchMembers old new)) key) _
          rw [get?_applyMembers _ (ascending_patchMembers old hupdated.1),
            get?_patchMembers old hupdated.1]
          refine amended_difference (fun v hv => hupdated.2 _ (mem_of_get? hv))
            (fun v hv => hnull _ (mem_of_get? hv)) fun p v hp hv => ?_
          exact ih _ (mem_of_get? hv) (hbase.2 _ (mem_of_get? hp)) (hupdated.2 _ (mem_of_get? hv))
            (hnull _ (mem_of_get? hv)).2
  | _ => exact same_refl _

/-- Without floating-point numbers the patch leads to the second value itself. -/
theorem apply_diff {base updated : Json} (hbase : base.Canonical)
    (hupdated : updated.Canonical) (hnull : updated.NoNullMember) (hexact : updated.Exact) :
    apply base (diff base updated) = updated :=
  eq_of_same hexact (apply_diff_same hbase hupdated hnull)

/--
The patch between two values leads from the first to the second, whatever kinds of values
they are, if no object of the second has a null member. They can differ afterwards in the
sign of a floating-point zero alone, which does not count as a difference.
-/
theorem diff_round_trip (base updated : Json) (hbase : base.Canonical)
    (hupdated : updated.Canonical) (hnull : updated.NoNullMember) :
    (apply base (diff base updated)).same updated = true ∧
      (updated.Exact → apply base (diff base updated) = updated) :=
  ⟨apply_diff_same hbase hupdated hnull, apply_diff hbase hupdated hnull⟩

/-- An object becomes a list with nulls, a list becomes an object, a member goes and one comes. -/
theorem diff_round_trip_mixed :
    let base := object [("a", object [("x", int 1)]), ("b", array []), ("c", string "gone")]
    let updated := object [("a", array [.null, object [("n", .null)]]),
      ("b", object [("y", object [])]), ("d", object [("z", object [("w", bool true)])])]
    base.Canonical ∧ updated.Canonical ∧ updated.NoNullMember ∧
      (apply base (diff base updated)).same updated = true ∧
      (updated.Exact → apply base (diff base updated) = updated) := by
  intro base updated
  have hbase : base.Canonical := by
    simp +decide [base, Canonical, CanonicalMembers, CanonicalItems, int]
  have hupdated : updated.Canonical := by
    simp +decide [updated, Canonical, CanonicalMembers, CanonicalItems]
  have hnull : updated.NoNullMember := by
    simp [updated, NoNullMember, NoNullAmong]
  exact ⟨hbase, hupdated, hnull, diff_round_trip base updated hbase hupdated hnull⟩

end MergePatch

end RunnerRelease
