import RunnerRelease.Log.Entry
import RunnerRelease.Text.Decimal

/-!
# Selection of log entries

Directives that say from which level on the entries of a target are shown.

## Implementation notes

A directive without a target is for all targets. Of the directives for a target the
one with the longest beginning of it decides, and of equal ones the last. Directives
about the context of an entry do not select anything by themselves.
-/

namespace RunnerRelease

/-- The level up to which entries are shown for the targets with a certain beginning. -/
structure LogDirective where
  target : String
  /-- The highest rank of a level that is shown; zero shows nothing. -/
  rank : Nat
deriving DecidableEq, Repr

/-- Directives, the last one first. -/
structure LogFilter where
  directives : List LogDirective
deriving DecidableEq, Repr

namespace LogFilter

/-- The rank that a word or a digit stands for. -/
def rank? (word : List Char) : Option Nat :=
  let lower := String.ofList (word.map Char.toLower)
  [("off", 0), ("error", 1), ("warn", 2), ("info", 3), ("debug", 4), ("trace", 5),
    ("0", 0), ("1", 1), ("2", 2), ("3", 3), ("4", 4), ("5", 5)].lookup lower

/-- A character that may stand in a target. -/
def isTargetChar (c : Char) : Bool := c.isAlphanum || c == '_' || c == ':' || c == '-'

/-- The texts before, in and after a context in brackets. -/
def splitContext (cs : List Char) : Option (List Char × List Char) :=
  let (target, rest) := cs.span (· != '[')
  match rest with
  | [] => none
  | rest =>
    let after := rest.dropWhile (· != ']')
    match after with
    | ']' :: level => some (target, level)
    | _ => none

/-- Reads a directive; one about a context is accepted and selects nothing. -/
def directive? (cs : List Char) : Option (Option LogDirective) :=
  match rank? cs with
  | some rank => some (some { target := "", rank })
  | none =>
    match splitContext cs with
    | some (target, level) =>
      if target.all isTargetChar &&
          (level.isEmpty || (level.head? == some '=' && (rank? level.tail).isSome)) then some none
      else none
    | none =>
      let (target, level) := cs.span (· != '=')
      if !target.isEmpty && target.all isTargetChar then
        match level with
        | [] | ['='] => some (some { target := .ofList target, rank := 5 })
        | _ :: level => (rank? level).map fun rank => some { target := .ofList target, rank }
      else none

/-- The filter that shows everything from a level on. -/
def upTo (rank : Nat) : LogFilter := { directives := [{ target := "", rank }] }

/-- The parts of a text between commas. -/
def splitCommas : List Char → List (List Char)
  | [] => [[]]
  | c :: rest =>
    if c = ',' then [] :: splitCommas rest
    else match splitCommas rest with
      | [] => [[c]]
      | part :: parts => (c :: part) :: parts

/-- Reads directives with commas between them; without any, only errors are shown. -/
def parse? (text : String) : Option LogFilter := do
  let parts := (splitCommas text.toList).filter fun part => !part.isEmpty
  let directives ← parts.mapM directive?
  match directives.filterMap id with
  | [] => return upTo 1
  | ds => return { directives := ds.reverse }

/-- What is shown when nothing else is asked for. -/
def default : LogFilter :=
  { directives := [{ target := "runner_controller", rank := 4 }, { target := "", rank := 3 }] }

/-- The filter that a text asks for; the default where it is absent or malformed. -/
def ofText (text : Option String) : LogFilter := (text.bind parse?).getD default

/-- The directive that decides about a target. -/
def deciding (filter : LogFilter) (target : String) : Option LogDirective :=
  (filter.directives.filter fun d => d.target.toList.isPrefixOf target.toList).foldl
    (fun best d =>
      match best with
      | none => some d
      | some b => if b.target.length < d.target.length then some d else some b)
    none

/-- Whether an entry is shown. -/
def shows (filter : LogFilter) (entry : LogEntry) : Bool :=
  (filter.deciding entry.source.target).any fun d => entry.level.rank ≤ d.rank

end LogFilter

end RunnerRelease
