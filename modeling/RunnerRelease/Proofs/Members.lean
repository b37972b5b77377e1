import Mathlib.Data.List.Forall2
import RunnerRelease.Members

/-!
# What keys are bound to

The operations on members, seen through `get?`. Lists in key order are determined by
what each key is bound to, so this view decides equality.

## Implementation notes

Only what compares whole lists asks for the order. The view of an operation needs none,
because each operation meets the first member of a key where `get?` meets it.
-/

namespace RunnerRelease.Members

variable {α β : Type}

@[simp] theorem get?_nil (key : String) : get? ([] : Members α) key = none := rfl

theorem get?_cons (k : String) (v : α) (rest : Members α) (key : String) :
    get? ((k, v) :: rest) key = if k = key then some v else get? rest key := rfl

/-- A key is bound to what was bound to it last. -/
@[simp] theorem get?_insert (ms : Members α) (k : String) (v : α) (key : String) :
    get? (insert ms k v) key = if k = key then some v else get? ms key := by
  induction ms with
  | nil => rfl
  | cons head rest ih =>
      obtain ⟨j, w⟩ := head
      simp only [insert]
      split
      · rfl
      · split
        · rename_i hj
          subst hj
          by_cases hk : j = key <;> simp [get?_cons, hk]
        · rename_i hj
          rw [get?_cons, ih, get?_cons]
          by_cases hk : k = key
          · subst hk
            simp [hj]
          · simp [hk]

/-- Of two bindings of a key the later one stays. -/
@[simp] theorem insert_insert (ms : Members α) (key : String) (v w : α) :
    insert (insert ms key v) key w = insert ms key w := by
  induction ms with
  | nil => simp [insert]
  | cons head rest ih =>
      obtain ⟨k, u⟩ := head
      simp only [insert]
      split
      · simp [insert]
      · split
        · simp [insert]
        · rename_i hle hne
          rw [insert, if_neg hle, if_neg hne, ih]

@[simp] theorem get?_erase (ms : Members α) (k key : String) :
    get? (erase ms k) key = if k = key then none else get? ms key := by
  induction ms with
  | nil => simp [erase]
  | cons head rest ih =>
      obtain ⟨j, w⟩ := head
      simp only [erase, List.filter_cons] at ih ⊢
      by_cases hj : j = k
      · subst hj
        rw [if_neg (by simp), ih, get?_cons]
        by_cases hk : j = key <;> simp [hk]
      · rw [if_pos (by simpa using hj), get?_cons, ih, get?_cons]
        by_cases hk : j = key
        · subst hk
          simp [Ne.symm hj]
        · simp [hk]

theorem get?_map (f : α → β) (ms : Members α) (key : String) :
    get? (ms.map fun m => (m.1, f m.2)) key = (get? ms key).map f := by
  induction ms with
  | nil => rfl
  | cons head rest ih =>
      obtain ⟨j, w⟩ := head
      rw [List.map_cons, get?_cons, get?_cons, ih]
      by_cases hk : j = key <;> simp [hk]

theorem get?_append (a b : Members α) (key : String) :
    get? (a ++ b) key = (get? a key).or (get? b key) := by
  induction a with
  | nil => simp
  | cons head rest ih =>
      obtain ⟨j, w⟩ := head
      rw [List.cons_append, get?_cons, get?_cons, ih]
      by_cases hk : j = key <;> simp [hk]

/-- Binding the keys of a list one after the other, the last binding of a key counts. -/
theorem get?_foldl_insert (ms : List (String × α)) (acc : Members α) (key : String) :
    get? (ms.foldl (fun acc m => insert acc m.1 m.2) acc) key =
      (get? ms.reverse key).or (get? acc key) := by
  induction ms generalizing acc with
  | nil => simp
  | cons head rest ih =>
      rw [List.foldl_cons, ih, List.reverse_cons, get?_append, Option.or_assoc, get?_insert,
        get?_cons, get?_nil]
      by_cases hk : head.1 = key <;> simp [hk]

theorem get?_ofList (ms : List (String × α)) (key : String) :
    get? (ofList ms) key = get? ms.reverse key := by
  simp [ofList, get?_foldl_insert]

theorem mem_of_get? {ms : Members α} {key : String} {value : α}
    (h : get? ms key = some value) : (key, value) ∈ ms := by
  induction ms with
  | nil => simp at h
  | cons head rest ih =>
      obtain ⟨j, w⟩ := head
      rw [get?_cons] at h
      by_cases hk : j = key
      · subst hk
        simp_all
      · exact List.mem_cons_of_mem _ (ih (by simpa [hk] using h))

theorem get?_eq_none {ms : Members α} {key : String} (h : ∀ m ∈ ms, m.1 ≠ key) :
    get? ms key = none := by
  cases hg : get? ms key with
  | none => rfl
  | some value => exact absurd rfl (h _ (mem_of_get? hg))

/-- In key order the rest of a list does not bind the first key. -/
theorem get?_tail_eq_none {head : String × α} {rest : Members α}
    (h : Ascending (head :: rest)) : get? rest head.1 = none :=
  get?_eq_none fun m hm => (String.ne_of_lt ((List.pairwise_cons.1 h).1 m hm)).symm

theorem ascending_erase {ms : Members α} (h : ms.Ascending) (key : String) :
    (erase ms key).Ascending :=
  List.Pairwise.filter _ h

theorem ascending_foldl_insert (ms : List (String × α)) {acc : Members α} (h : acc.Ascending) :
    (ms.foldl (fun acc m => insert acc m.1 m.2) acc).Ascending := by
  induction ms generalizing acc with
  | nil => exact h
  | cons m rest ih => exact ih (ascending_insert h m.1 m.2)

/-- Binds a key, or removes it where there is no value. -/
def update (ms : Members α) (key : String) : Option α → Members α
  | none => erase ms key
  | some value => insert ms key value

@[simp] theorem get?_update (ms : Members α) (k : String) (v : Option α) (key : String) :
    get? (update ms k v) key = if k = key then v else get? ms key := by
  cases v <;> simp [update]

theorem ascending_update {ms : Members α} (h : ms.Ascending) (key : String) (v : Option α) :
    (update ms key v).Ascending := by
  cases v with
  | none => exact ascending_erase h key
  | some value => exact ascending_insert h key value

theorem ascending_map {ms : Members α} (h : ms.Ascending) (f : α → β) :
    Ascending (ms.map fun m => (m.1, f m.2)) :=
  List.pairwise_map.2 h

/-- Lists in key order that bind each other's first key begin with the same key. -/
theorem first_key_eq {x : String × α} {xs : Members α} {y : String × β} {ys : Members β}
    (ha : Ascending (x :: xs)) (hb : Ascending (y :: ys)) (hx : (get? (y :: ys) x.1).isSome)
    (hy : (get? (x :: xs) y.1).isSome) : x.1 = y.1 := by
  obtain ⟨w, hw⟩ := Option.isSome_iff_exists.1 hx
  obtain ⟨v, hv⟩ := Option.isSome_iff_exists.1 hy
  rcases List.mem_cons.1 (mem_of_get? hw) with heq | hbelow
  · exact congrArg Prod.fst heq
  · rcases List.mem_cons.1 (mem_of_get? hv) with heq | habove
    · exact (congrArg Prod.fst heq).symm
    · have hlt : x.1 < y.1 := (List.pairwise_cons.1 ha).1 _ habove
      have hgt : y.1 < x.1 := (List.pairwise_cons.1 hb).1 _ hbelow
      exact absurd (String.lt_trans hlt hgt) (String.lt_irrefl _)

/-- Lists in key order whose keys are bound to related values correspond member by member. -/
theorem forall₂_of_get? {R : α → β → Prop} {a : Members α} {b : Members β}
    (ha : a.Ascending) (hb : b.Ascending)
    (h : ∀ key, Option.Rel R (get? a key) (get? b key)) :
    List.Forall₂ (fun x y => x.1 = y.1 ∧ R x.2 y.2) a b := by
  induction a generalizing b with
  | nil =>
      cases b with
      | nil => exact .nil
      | cons y ys => simpa [get?_cons y.1 y.2] using h y.1
  | cons x xs ih =>
      cases b with
      | nil => simpa [get?_cons x.1 x.2] using h x.1
      | cons y ys =>
          have hkey : x.1 = y.1 := by
            have hxb := h x.1
            have hya := h y.1
            rw [get?_cons x.1 x.2, if_pos rfl] at hxb
            rw [get?_cons y.1 y.2, if_pos rfl] at hya
            refine first_key_eq ha hb ?_ ?_
            · generalize get? (y :: ys) x.1 = found at hxb ⊢
              cases hxb
              rfl
            · generalize get? (x :: xs) y.1 = found at hya ⊢
              cases hya
              rfl
          have hvalue : R x.2 y.2 := by
            have hfirst := h x.1
            rw [get?_cons x.1 x.2, if_pos rfl, get?_cons y.1 y.2, if_pos hkey.symm] at hfirst
            simpa using hfirst
          refine .cons ⟨hkey, hvalue⟩ (ih ha.tail hb.tail fun key => ?_)
          have hrest := h key
          rw [get?_cons x.1 x.2, get?_cons y.1 y.2, ← hkey] at hrest
          by_cases hk : x.1 = key
          · subst hk
            rw [get?_tail_eq_none ha, hkey, get?_tail_eq_none hb]
            exact .none
          · simpa [hk] using hrest

/-- Two lists in key order that bind every key alike are the same. -/
theorem ext_get? {a b : Members α} (ha : a.Ascending) (hb : b.Ascending)
    (h : ∀ key, get? a key = get? b key) : a = b := by
  have hall : List.Forall₂ (fun x y => x.1 = y.1 ∧ x.2 = y.2) a b := by
    refine forall₂_of_get? ha hb fun key => ?_
    rw [h key]
    cases get? b key with
    | none => exact .none
    | some v => exact .some rfl
  exact List.forall₂_eq_eq_eq ▸ hall.imp fun x y hxy => Prod.ext hxy.1 hxy.2

end RunnerRelease.Members
