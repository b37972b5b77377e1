import RunnerRelease.Proofs.MergePatch.RoundTrip

/-!
# Patches on other values

What a patch does to a value other than the one it was made from, which may have moved on since.
Along a path through objects it does what the two values between which it leads say at the end of
that path: where they agree, it leaves everything as it is.

## Implementation notes

A patch goes into a member only where both of its values have an object there. Anywhere else it
replaces a member as a whole, and what another value holds below that member is lost. Hence the
objects that are asked for in front of the end of the path.
-/

namespace RunnerRelease

namespace Json

/-- There is an object at every proper beginning of the path. -/
def ObjectsAlong (value : Json) (path : List String) : Prop :=
  ∀ length < path.length, ((value.at? (path.take length)).bind members?).isSome

/-- Two values hold the same at the path: both nothing, or values that are the same. -/
def AgreeAt (path : List String) (v w : Json) : Prop :=
  Option.Rel (fun a b => a.same b = true) (v.at? path) (w.at? path)

/-- To reach a member of an object, nothing else needs to be an object. -/
theorem objectsAlong_object_single (ms : Members Json) (key : String) :
    (object ms).ObjectsAlong [key] := by
  intro length hlength
  obtain rfl : length = 0 := Nat.lt_one_iff.1 hlength
  rfl

theorem ObjectsAlong.cons {ms : Members Json} {key : String} {member : Json} {path : List String}
    (h : member.ObjectsAlong path) (hmember : Members.get? ms key = some member) :
    (object ms).ObjectsAlong (key :: path) := by
  intro length hlength
  cases length with
  | zero => rfl
  | succ length =>
      rw [List.take_succ_cons, at?_cons, get?_object, hmember]
      exact h length (Nat.lt_of_succ_lt_succ hlength)

theorem ObjectsAlong.exists_object {value : Json} {key : String} {path : List String}
    (h : value.ObjectsAlong (key :: path)) : ∃ ms, value = .object ms := by
  have hroot := h 0 (Nat.zero_lt_succ _)
  cases value with
  | object ms => exact ⟨ms, rfl⟩
  | _ => cases hroot

/-- Where the path goes on, there is an object below its first key. -/
theorem ObjectsAlong.exists_member {value : Json} {key next : String} {path : List String}
    (h : value.ObjectsAlong (key :: next :: path)) :
    ∃ member, value.get? key = some member ∧ member.ObjectsAlong (next :: path) := by
  cases hmember : value.get? key with
  | none =>
      have hfirst := h 1 (by simp)
      rw [List.take_succ_cons, at?_cons, hmember] at hfirst
      cases hfirst
  | some member =>
      refine ⟨member, rfl, ?_⟩
      intro length hlength
      have hbelow := h (length + 1) (Nat.succ_lt_succ hlength)
      rwa [List.take_succ_cons, at?_cons, hmember] at hbelow

theorem rel_get?_of_sameMembers {a b : Members Json} (h : sameMembers a b = true)
    (key : String) : Option.Rel (fun v w => v.same w = true) (a.get? key) (b.get? key) := by
  rw [sameMembers_iff_forall₂] at h
  induction h with
  | nil => exact .none
  | @cons x y xs ys hxy _ ih =>
      rw [Members.get?_cons x.1 x.2, Members.get?_cons y.1 y.2, hxy.1]
      by_cases hkey : y.1 = key
      · rw [if_pos hkey, if_pos hkey]
        exact .some hxy.2
      · rw [if_neg hkey, if_neg hkey]
        exact ih

/-- Values that are the same hold the same under every key. -/
theorem rel_get?_of_same {v w : Json} (h : v.same w = true) (key : String) :
    Option.Rel (fun a b => a.same b = true) (v.get? key) (w.get? key) := by
  cases v with
  | object a =>
      cases w with
      | object b => exact rel_get?_of_sameMembers h key
      | _ => cases h
  | _ =>
      cases w with
      | object b => cases h
      | _ => exact .none

/-- Values that are the same hold the same at every path. -/
theorem agreeAt_of_same {v w : Json} (h : v.same w = true) (path : List String) :
    AgreeAt path v w := by
  induction path generalizing v w with
  | nil => exact .some h
  | cons key path ih =>
      have hmember := rel_get?_of_same h key
      rw [AgreeAt, at?_cons, at?_cons]
      generalize v.get? key = a, w.get? key = b at hmember
      cases hmember with
      | none => exact .none
      | some hsame => exact ih hsame

end Json

namespace MergePatch

open Members Json

/-- A patch does not name what its two values hold alike. -/
theorem difference_eq_none {old new : Option Json}
    (h : Option.Rel (fun v w => v.same w = true) old new) : difference old new = none := by
  cases h with
  | none => rfl
  | some hsame => exact if_pos hsame

/--
At the end of a path through objects, a patch amends any value by the difference that its own two
values have there.
-/
theorem at?_apply_diff {base updated target : Json} {path : List String} (hpath : path ≠ [])
    (hcanonical : updated.Canonical) (hbase : base.ObjectsAlong path)
    (hupdated : updated.ObjectsAlong path) (htarget : target.ObjectsAlong path) :
    (apply target (diff base updated)).at? path =
      amended (target.at? path) (difference (base.at? path) (updated.at? path)) := by
  induction path generalizing base updated target with
  | nil => exact absurd rfl hpath
  | cons key path ih =>
      obtain ⟨old, rfl⟩ := hbase.exists_object
      obtain ⟨new, rfl⟩ := hupdated.exists_object
      obtain ⟨hnew, hmembers⟩ := canonical_object_iff.1 hcanonical
      have hget := get?_apply_object target (ascending_patchMembers old hnew) key
      rw [get?_patchMembers old hnew] at hget
      rw [diff_object, at?_cons, hget]
      cases path with
      | nil => simp [at?_cons]
      | cons next rest =>
          obtain ⟨previous, hprevious, hbase⟩ := hbase.exists_member
          obtain ⟨value, hvalue, hupdated⟩ := hupdated.exists_member
          obtain ⟨member, hmember, htarget⟩ := htarget.exists_member
          rw [get?_object] at hprevious hvalue
          simp only [at?_cons _ key, get?_object, hprevious, hvalue, hmember, Option.bind_some]
          rw [difference]
          by_cases hsame : previous.same value = true
          · -- the patch does not name the key, and there is no difference below it either
            rw [if_pos hsame, difference_eq_none (agreeAt_of_same hsame (next :: rest))]
            rfl
          · have hne : value ≠ .null := by
              obtain ⟨ms, rfl⟩ := hupdated.exists_object
              simp
            rw [if_neg hsame, amended_some (diff_ne_null previous hne), Option.getD_some,
              Option.bind_some]
            exact ih (List.cons_ne_nil _ _) (hmembers _ (mem_of_get? hvalue)) hbase hupdated htarget

/--
Where the two values between which a patch leads agree, at the end of a path through objects, the
patch leaves every other value as it is there.
-/
theorem unchanged_left_alone (base updated target : Json) (path : List String) (hpath : path ≠ [])
    (hcanonical : updated.Canonical) (hbase : base.ObjectsAlong path)
    (hupdated : updated.ObjectsAlong path) (htarget : target.ObjectsAlong path)
    (hagree : AgreeAt path base updated) :
    (apply target (diff base updated)).at? path = target.at? path := by
  rw [at?_apply_diff hpath hcanonical hbase hupdated htarget, difference_eq_none hagree]
  rfl

/-- A value and a gap that have not changed stay as they have become in the meantime. -/
theorem unchanged_left_alone_beside_changes :
    let base := object [("m", object [("a", int 1), ("b", int 2)])]
    let updated := object [("m", object [("a", int 1), ("c", int 3)])]
    let target := object [("m", object [("a", int 9), ("b", int 5), ("d", int 7)])]
    (apply target (diff base updated)).at? ["m", "a"] = some (int 9) ∧
      (apply target (diff base updated)).at? ["m", "d"] = some (int 7) := by
  intro base updated target
  have hcanonical : updated.Canonical := by
    simp +decide [updated, Canonical, CanonicalMembers, int]
  have hkept (key : String) (hagree : AgreeAt ["m", key] base updated) :=
    unchanged_left_alone base updated target ["m", key] (List.cons_ne_nil _ _) hcanonical
      ((objectsAlong_object_single _ key).cons rfl) ((objectsAlong_object_single _ key).cons rfl)
      ((objectsAlong_object_single _ key).cons rfl) hagree
  exact ⟨hkept "a" (.some (same_refl _)), hkept "d" .none⟩

end MergePatch

end RunnerRelease
