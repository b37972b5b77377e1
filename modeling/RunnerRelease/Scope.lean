import RunnerRelease.Text.Blank

/-!
# Registration scopes

The namespace in which a runner is registered: an enterprise, an organization or a
repository.

## Implementation notes

A scope is usually made by `ofParts`, which accepts exactly one of the three parts
and, for a repository, exactly one slash with text on both sides. The constructors
themselves demand nothing.
-/

namespace RunnerRelease

/-- The namespace in which a runner is registered. -/
inductive Scope where
  | enterprise (slug : String)
  | organization (name : String)
  | repository (owner name : String)
deriving DecidableEq, Repr

namespace Scope

/-- Why three optional parts do not name a scope. -/
inductive Problem where
  | missing
  | ambiguous
  | malformedRepository (text : String)
deriving DecidableEq, Repr

/-- The wording of a problem. -/
def Problem.message : Problem → String
  | .missing => "one of enterprise, organization or repository is required"
  | .ambiguous => "only one of enterprise, organization or repository may be set"
  | .malformedRepository text => s!"repository must be in owner/repo form, got '{text}'"

/-- The trimmed text of a part, if anything remains of it. -/
def populated (part : Option String) : Option String :=
  (part.map Text.trim).filter fun s => !s.isEmpty

/-- The texts before and after the first slash. -/
def splitSlash : List Char → Option (List Char × List Char)
  | [] => none
  | c :: rest =>
    if c = '/' then some ([], rest)
    else (splitSlash rest).map fun (before, after) => (c :: before, after)

/-- The scope of a repository given by owner and name with a slash between them. -/
def ofRepository (text : String) : Except Problem Scope :=
  match splitSlash text.toList with
  | some (owner, name) =>
    if owner.isEmpty || name.isEmpty || name.contains '/' then
      .error (.malformedRepository text)
    else .ok (.repository (.ofList owner) (.ofList name))
  | none => .error (.malformedRepository text)

/-- The scope named by exactly one of three parts; blank parts count as not given. -/
def ofParts (enterprise organization repository : Option String) : Except Problem Scope :=
  match populated enterprise, populated organization, populated repository with
  | some slug, none, none => .ok (.enterprise slug)
  | none, some name, none => .ok (.organization name)
  | none, none, some text => ofRepository text
  | none, none, none => .error .missing
  | _, _, _ => .error .ambiguous

/-- The path of the scope below the root of the runner service, without a leading slash. -/
def apiPath : Scope → String
  | .enterprise slug => "enterprises/" ++ slug
  | .organization name => "orgs/" ++ name
  | .repository owner name => "repos/" ++ owner ++ "/" ++ name

/-- The text by which the scope is shown. -/
def render : Scope → String
  | .enterprise slug => "enterprise/" ++ slug
  | .organization name => "organization/" ++ name
  | .repository owner name => "repository/" ++ owner ++ "/" ++ name

end Scope

end RunnerRelease
