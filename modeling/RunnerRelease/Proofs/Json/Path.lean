import RunnerRelease.Json.Basic
import RunnerRelease.Proofs.Members

/-!
# Paths of member names

What a value holds at a path, and the writing of a value at a path.

## Implementation notes

Writing creates the objects that are missing on its way, null counting as an empty
one, and fails on a value of any other kind.
-/

namespace RunnerRelease.Json

/-- The value at a path of member names. -/
def at? (value : Json) : List String → Option Json
  | [] => some value
  | key :: path => (value.get? key).bind fun member => member.at? path

/--
The value with another one written at a path of member names; absent when something
on the path is neither an object nor null.
-/
def assign? (value : Json) : List String → Json → Option Json
  | [], written => some written
  | key :: path, written =>
      match value with
      | .object ms =>
          (((Members.get? ms key).getD .null).assign? path written).map fun member =>
            .object (Members.insert ms key member)
      | .null => (Json.null.assign? path written).map fun member => .object [(key, member)]
      | _ => none

@[simp] theorem get?_object (ms : Members Json) (key : String) :
    (object ms).get? key = ms.get? key := rfl

@[simp] theorem at?_nil (value : Json) : value.at? [] = some value := rfl

theorem at?_cons (value : Json) (key : String) (path : List String) :
    value.at? (key :: path) = (value.get? key).bind fun member => member.at? path := rfl

@[simp] theorem at?_null_cons (key : String) (path : List String) :
    Json.null.at? (key :: path) = none := rfl

theorem exists_object_of_get? {value member : Json} {key : String}
    (h : value.get? key = some member) : ∃ ms, value = .object ms := by
  cases value with
  | object ms => exact ⟨ms, rfl⟩
  | _ => cases h

theorem get?_getD_null (value : Option Json) (key : String) :
    (value.getD .null).get? key = value.bind fun v => v.get? key := by
  cases value <;> rfl

theorem assign?_object_cons (ms : Members Json) (key : String) (path : List String)
    (written : Json) :
    (object ms).assign? (key :: path) written =
      (((ms.get? key).getD .null).assign? path written).map fun member =>
        .object (ms.insert key member) := rfl

/-- What a key of an object holds, looked up along a path, nothing counting as null. -/
theorem at?_object_cons_cons (ms : Members Json) (key next : String) (path : List String) :
    (object ms).at? (key :: next :: path) = ((ms.get? key).getD .null).at? (next :: path) := by
  rw [at?_cons, get?_object]
  cases ms.get? key <;> rfl

/-- Writing binds the first key of the path, and no other key, to a value that was written to. -/
theorem assign?_cons_eq_some {value result written : Json} {key : String} {path : List String}
    (h : value.assign? (key :: path) written = some result) :
    ∃ member, ((value.get? key).getD .null).assign? path written = some member ∧
      ∀ other, result.get? other = if key = other then some member else value.get? other := by
  cases value with
  | object ms =>
      rw [assign?_object_cons] at h
      obtain ⟨member, hmember, rfl⟩ := Option.map_eq_some_iff.1 h
      exact ⟨member, hmember, fun other => by simp⟩
  | null =>
      obtain ⟨member, hmember, rfl⟩ := Option.map_eq_some_iff.1 h
      exact ⟨member, hmember, fun other => rfl⟩
  | _ => cases h

/-- An object in key order that differs in one member alone is the one with that member written. -/
theorem assign?_cons_of_get? {ms changed : Members Json} {key : String} {path : List String}
    {written member : Json} (hms : ms.Ascending) (hchanged : changed.Ascending)
    (hmember : ((ms.get? key).getD .null).assign? path written = some member)
    (h : ∀ other, changed.get? other = if key = other then some member else ms.get? other) :
    (object ms).assign? (key :: path) written = some (.object changed) := by
  have hinsert : ms.insert key member = changed :=
    Members.ext_get? (Members.ascending_insert hms key member) hchanged fun other => by
      rw [Members.get?_insert, h]
  rw [assign?_object_cons, hmember, Option.map_some, hinsert]

/-- What has been written at a path is there. -/
theorem at?_of_assign? {value result written : Json} {path : List String}
    (h : value.assign? path written = some result) : result.at? path = some written := by
  induction path generalizing value result with
  | nil => cases h; rfl
  | cons key path ih =>
      obtain ⟨member, hmember, hget⟩ := assign?_cons_eq_some h
      rw [at?_cons, hget, if_pos rfl]
      exact ih hmember

/-- Writing at a path leaves alone what is at a path that branches off from it. -/
theorem at?_of_assign?_of_ne {value result written : Json} (stem : List String)
    {key other : String} (path rest : List String) (hne : key ≠ other)
    (h : value.assign? (stem ++ key :: path) written = some result) :
    result.at? (stem ++ other :: rest) = value.at? (stem ++ other :: rest) := by
  induction stem generalizing value result with
  | nil =>
      obtain ⟨member, -, hget⟩ := assign?_cons_eq_some h
      rw [List.nil_append, at?_cons, at?_cons, hget, if_neg hne]
  | cons first stem ih =>
      rw [List.cons_append] at h ⊢
      obtain ⟨member, hmember, hget⟩ := assign?_cons_eq_some h
      rw [at?_cons, at?_cons, hget, if_pos rfl]
      change member.at? _ = _
      rw [ih hmember]
      cases value.get? first with
      | none => cases stem <;> rfl
      | some _ => rfl

end RunnerRelease.Json
