import RunnerRelease.Json.Basic

/-!
# Merge patches

The patch format of RFC 7386: `diff` writes the patch that leads from one value to
another, `apply` carries a patch out.

## Implementation notes

A patch that is an object changes the members it names, null standing for removal;
any other patch replaces the whole value. A patch therefore cannot write a null
member. `diff` names a removed member with null, an added one with its value, and
goes into a member that stays with another value; members that stay the same are
not named.
-/

namespace RunnerRelease.MergePatch

open Members

/-- Removals of the members of the first list whose keys the second does not bind. -/
def removals (base updated : List (String × Json)) : List (String × Json) :=
  base.filterMap fun m => if has updated m.1 then none else some (m.1, .null)

mutual

/-- The patch that leads from the base to the updated value. -/
def diff (base : Json) : Json → Json
  | .object updated =>
    match base with
    | .object ms =>
      .object ((removals ms updated).foldl (fun patch m => insert patch m.1 m.2)
        (changes ms updated))
    | _ => .object updated
  | updated => updated

/-- The members of the updated object that differ from the base ones, as patches. -/
def changes (base : List (String × Json)) : List (String × Json) → List (String × Json)
  | [] => []
  | (key, value) :: rest =>
    match get? base key with
    | none => (key, value) :: changes base rest
    | some previous =>
      if previous.same value then changes base rest
      else (key, diff previous value) :: changes base rest

end

mutual

/-- Carries a patch out on a value. -/
def apply (target : Json) : Json → Json
  | .object patch =>
    .object (applyMembers (match target with | .object ms => ms | _ => []) patch)
  | patch => patch

/-- Carries the members of a patch out on the members of an object. -/
def applyMembers (target : List (String × Json)) : List (String × Json) → List (String × Json)
  | [] => target
  | (key, .null) :: rest => applyMembers (erase target key) rest
  | (key, patch) :: rest =>
    applyMembers (insert target key (apply ((get? target key).getD .null) patch)) rest

end

end RunnerRelease.MergePatch
