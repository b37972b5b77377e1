import RunnerRelease.Json.Basic
import RunnerRelease.Proofs.Members

/-!
# Equality of JSON values

`same` compares member by member; on canonical objects that is to compare what each
key is bound to. It is coarser than equality in the sign of a floating-point zero
alone, so it is equality on values without floating-point numbers.
-/

namespace RunnerRelease

/-- Every number is the same as itself. -/
theorem Number.same_refl (n : Number) : n.same n = true := by
  cases n <;> simp [Number.same]

namespace Json

/-- What holds of a value when it holds of all items and members, holds of every value. -/
@[elab_as_elim]
theorem nested_induction {motive : Json → Prop} (null : motive .null)
    (bool : ∀ b, motive (.bool b)) (number : ∀ n, motive (.number n))
    (string : ∀ s, motive (.string s))
    (array : ∀ items, (∀ v ∈ items, motive v) → motive (.array items))
    (object : ∀ ms, (∀ m ∈ ms, motive m.2) → motive (.object ms)) (v : Json) : motive v := by
  refine Json.rec (motive_1 := motive) (motive_2 := fun items => ∀ v ∈ items, motive v)
    (motive_3 := fun ms => ∀ m ∈ ms, motive m.2) (motive_4 := fun m => motive m.2)
    null bool number string array object ?_ ?_ ?_ ?_ ?_ v
  · simp
  · intro head rest hhead hrest
    simpa using ⟨hhead, hrest⟩
  · simp
  · intro head rest hhead hrest
    simpa using ⟨hhead, fun k w hm => hrest (k, w) hm⟩
  · exact fun _ _ h => h

theorem canonical_array_iff {items : List Json} :
    Canonical (.array items) ↔ ∀ v ∈ items, Canonical v := by
  rw [Canonical]
  induction items with
  | nil => simp [CanonicalItems]
  | cons head rest ih => simp [CanonicalItems, ih]

theorem canonical_object_iff {ms : Members Json} :
    Canonical (.object ms) ↔ ms.Ascending ∧ ∀ m ∈ ms, Canonical m.2 := by
  have hmembers : CanonicalMembers ms ↔ ∀ m ∈ ms, Canonical m.2 := by
    induction ms with
    | nil => simp [CanonicalMembers]
    | cons head rest ih => simp [CanonicalMembers, ih]
  rw [Canonical, hmembers]

/-- Every value is the same as itself. -/
@[simp] theorem same_refl (v : Json) : v.same v = true := by
  induction v using nested_induction with
  | null => rfl
  | bool b => simp [same]
  | number n => simpa [same] using n.same_refl
  | string s => simp [same]
  | array items ih =>
      rw [same]
      induction items with
      | nil => rfl
      | cons head rest hrest =>
          simp only [sameItems, Bool.and_eq_true]
          exact ⟨ih _ List.mem_cons_self, hrest fun v hv => ih v (List.mem_cons_of_mem _ hv)⟩
  | object ms ih =>
      rw [same]
      induction ms with
      | nil => rfl
      | cons head rest hrest =>
          simp only [sameMembers, Bool.and_eq_true, beq_self_eq_true, true_and]
          exact ⟨ih _ List.mem_cons_self, hrest fun m hm => ih m (List.mem_cons_of_mem _ hm)⟩

theorem sameItems_iff_forall₂ {a b : List Json} :
    sameItems a b = true ↔ List.Forall₂ (fun v w => v.same w = true) a b := by
  induction a generalizing b with
  | nil => cases b <;> simp [sameItems]
  | cons v vs ih =>
      cases b with
      | nil => simp [sameItems]
      | cons w ws => simp [sameItems, ih]

theorem sameMembers_iff_forall₂ {a b : Members Json} :
    sameMembers a b = true ↔ List.Forall₂ (fun x y => x.1 = y.1 ∧ x.2.same y.2 = true) a b := by
  induction a generalizing b with
  | nil => cases b <;> simp [sameMembers]
  | cons x xs ih =>
      cases b with
      | nil => simp [sameMembers]
      | cons y ys => simp [sameMembers, ih]

/-- Objects in key order are the same when they bind every key to the same value. -/
theorem same_object_of_get? {a b : Members Json} (ha : a.Ascending) (hb : b.Ascending)
    (h : ∀ key, Option.Rel (fun v w => v.same w = true) (a.get? key) (b.get? key)) :
    (object a).same (.object b) = true := by
  rw [same]
  exact sameMembers_iff_forall₂.2 (Members.forall₂_of_get? ha hb h)

mutual

/-- No number within the value is a floating-point one. -/
def Exact : Json → Prop
  | .number (.floating _ _) => False
  | .array items => ExactItems items
  | .object ms => ExactMembers ms
  | _ => True

/-- All values of a list are exact. -/
def ExactItems : List Json → Prop
  | [] => True
  | v :: rest => Exact v ∧ ExactItems rest

/-- All values of a member list are exact. -/
def ExactMembers : List (String × Json) → Prop
  | [] => True
  | (_, v) :: rest => Exact v ∧ ExactMembers rest

end

theorem exact_array_iff {items : List Json} :
    Exact (.array items) ↔ ∀ v ∈ items, Exact v := by
  rw [Exact]
  induction items with
  | nil => simp [ExactItems]
  | cons head rest ih => simp [ExactItems, ih]

theorem exact_object_iff {ms : Members Json} :
    Exact (.object ms) ↔ ∀ m ∈ ms, Exact m.2 := by
  rw [Exact]
  induction ms with
  | nil => simp [ExactMembers]
  | cons head rest ih => simp [ExactMembers, ih]

/-- A value without floating-point numbers is the same only as itself. -/
theorem eq_of_same {v w : Json} (hw : w.Exact) (h : v.same w = true) : v = w := by
  induction w using nested_induction generalizing v with
  | null => cases v <;> simp_all [same]
  | bool b => cases v <;> simp_all [same]
  | number n =>
      cases n with
      | integer n =>
          cases v with
          | number m => cases m <;> simp_all [same, Number.same]
          | _ => simp [same] at h
      | floating s m => simp [Exact] at hw
  | string s => cases v <;> simp_all [same]
  | array items ih =>
      cases v with
      | array vs =>
          rw [same, sameItems_iff_forall₂] at h
          rw [exact_array_iff] at hw
          congr 1
          induction h with
          | nil => rfl
          | @cons u w us ws huw _ hrest =>
              have hvalue : u = w := ih w List.mem_cons_self (hw w List.mem_cons_self) huw
              have htail : us = ws :=
                hrest (fun v hm => ih v (List.mem_cons_of_mem _ hm))
                  (fun v hm => hw v (List.mem_cons_of_mem _ hm))
              rw [hvalue, htail]
      | _ => simp [same] at h
  | object ms ih =>
      cases v with
      | object vs =>
          rw [same, sameMembers_iff_forall₂] at h
          rw [exact_object_iff] at hw
          congr 1
          induction h with
          | nil => rfl
          | @cons x y xs ys hxy _ hrest =>
              have hvalue : x.2 = y.2 :=
                ih y List.mem_cons_self (hw y List.mem_cons_self) hxy.2
              have htail : xs = ys :=
                hrest (fun m hm => ih m (List.mem_cons_of_mem _ hm))
                  (fun m hm => hw m (List.mem_cons_of_mem _ hm))
              rw [htail, Prod.ext hxy.1 hvalue]
      | _ => simp [same] at h

end Json

end RunnerRelease
