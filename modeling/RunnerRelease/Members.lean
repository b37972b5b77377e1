/-!
# Members in key order

Association lists whose keys are texts in strictly ascending order. The order is
that of the code points, so a list is determined by what each key is bound to.

## Implementation notes

The operations keep the order but do not demand it, so that they can be used where
the order is only known afterwards. `StringMap` carries the order in its type.
-/

namespace RunnerRelease

/-- Texts bound to values, one after the other. -/
abbrev Members (α : Type) := List (String × α)

namespace Members

variable {α : Type}

/-- The keys stand in strictly ascending order. -/
def Ascending (ms : Members α) : Prop := ms.Pairwise fun a b => a.1 < b.1

instance (ms : Members α) : Decidable ms.Ascending :=
  inferInstanceAs (Decidable (ms.Pairwise fun a b => a.1 < b.1))

/-- The value that a key is bound to. -/
def get? : Members α → String → Option α
  | [], _ => none
  | (k, v) :: rest, key => if k = key then some v else get? rest key

/-- Whether a key is bound. -/
def has (ms : Members α) (key : String) : Bool := (ms.get? key).isSome

/-- Binds a key, at its place in the order, in place of what it was bound to. -/
def insert : Members α → String → α → Members α
  | [], key, value => [(key, value)]
  | (k, v) :: rest, key, value =>
    if key < k then (key, value) :: (k, v) :: rest
    else if k = key then (key, value) :: rest
    else (k, v) :: insert rest key value

/-- Removes a key and what it is bound to. -/
def erase (ms : Members α) (key : String) : Members α := ms.filter fun m => m.1 ≠ key

/-- The members of a list in key order; of several for one key the last stays. -/
def ofList (ms : List (String × α)) : Members α :=
  ms.foldl (fun acc m => insert acc m.1 m.2) []

/-- Binding a key above a bound keeps all keys above it. -/
theorem lt_of_mem_insert {ms : Members α} {low key : String} {value : α}
    (hlow : low < key) (h : ∀ m ∈ ms, low < m.1) : ∀ m ∈ ms.insert key value, low < m.1 := by
  induction ms with
  | nil => simpa [insert] using hlow
  | cons head rest ih =>
    obtain ⟨k, v⟩ := head
    have hrest : ∀ m ∈ rest, low < m.1 := fun m hm => h m (List.mem_cons_of_mem _ hm)
    have hk : low < k := h (k, v) List.mem_cons_self
    intro m hm
    simp only [insert] at hm
    split at hm
    · simp only [List.mem_cons] at hm
      rcases hm with rfl | rfl | hm
      · exact hlow
      · exact hk
      · exact hrest m hm
    · split at hm
      · simp only [List.mem_cons] at hm
        rcases hm with rfl | hm
        · exact hlow
        · exact hrest m hm
      · simp only [List.mem_cons] at hm
        rcases hm with rfl | hm
        · exact hk
        · exact ih hrest m hm

/-- Binding a key keeps the order. -/
theorem ascending_insert {ms : Members α} (h : ms.Ascending) (key : String) (value : α) :
    (ms.insert key value).Ascending := by
  induction ms with
  | nil => simp [insert, Ascending]
  | cons head rest ih =>
    obtain ⟨k, v⟩ := head
    have hsplit := List.pairwise_cons.1 h
    simp only [insert]
    split
    · rename_i hlt
      refine List.pairwise_cons.2 ⟨?_, h⟩
      intro m hm
      rcases List.mem_cons.1 hm with rfl | hm
      · exact hlt
      · exact String.lt_trans hlt (hsplit.1 m hm)
    · split
      · rename_i _ heq
        subst heq
        exact List.pairwise_cons.2 ⟨hsplit.1, hsplit.2⟩
      · rename_i hle hne
        have hlt : k < key := Std.lt_of_le_of_ne (String.not_lt.1 hle) hne
        exact List.pairwise_cons.2 ⟨lt_of_mem_insert hlt hsplit.1, ih hsplit.2⟩

/-- The empty list is in order. -/
theorem ascending_nil : Ascending ([] : Members α) := List.Pairwise.nil

/-- Collecting members puts them in order. -/
theorem ascending_ofList (ms : List (String × α)) : (ofList ms).Ascending := by
  suffices h : ∀ acc : Members α, acc.Ascending →
      (ms.foldl (fun acc m => insert acc m.1 m.2) acc).Ascending from h [] ascending_nil
  induction ms with
  | nil => exact fun acc h => h
  | cons m rest ih => exact fun acc h => ih _ (ascending_insert h m.1 m.2)

end Members

/-- Texts bound to texts, in key order. -/
structure StringMap where
  entries : Members String
  ascending : entries.Ascending
deriving DecidableEq

namespace StringMap

/-- No text is bound. -/
def empty : StringMap := ⟨[], Members.ascending_nil⟩

/-- The text that a key is bound to. -/
def get? (m : StringMap) (key : String) : Option String := m.entries.get? key

/-- Binds a key, in place of what it was bound to. -/
def insert (m : StringMap) (key value : String) : StringMap :=
  ⟨m.entries.insert key value, Members.ascending_insert m.ascending key value⟩

/-- The map of the given bindings; of several for one key the last stays. -/
def ofList (entries : List (String × String)) : StringMap :=
  ⟨Members.ofList entries, Members.ascending_ofList entries⟩

end StringMap

end RunnerRelease
