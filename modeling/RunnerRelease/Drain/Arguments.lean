/-!
# The command line of the drain

The options of the command that releases a single pod, and the environment variables
that stand in for them.

## Implementation notes

Arguments are read from left to right, and the first one that is wrong, or that asks
for help or the version, ends the reading. An option that waits for its value does not
take a text with a dash in front for one, the dash alone excepted. Variables are
looked at after that, and only for options that were not given.
-/

namespace RunnerRelease.Drain

/-- What the command is asked to do. -/
structure Arguments where
  «namespace» : String
  pod : String
  runner : Option String
  enterprise : Option String
  organization : Option String
  repository : Option String
  config : String
  dryRun : Bool
  jsonLogs : Bool
deriving DecidableEq, Repr

/-- Why the command does not start. -/
inductive Stop where
  | usage
  | help
  | version
deriving DecidableEq, Repr

/-- The options that take a value. -/
def valueOptions : List String :=
  ["namespace", "pod", "runner", "enterprise", "organization", "repository", "config"]

/-- The options that take none. -/
def flagOptions : List String := ["dry-run", "json-logs"]

/-- The options that have been read, with their values; flags have an empty one. -/
abbrev Given := List (String × String)

/-- Adds an option that must not have been given before. -/
def add (given : Given) (name value : String) : Except Stop Given :=
  if (given.lookup name).isSome then .error .usage else .ok (given ++ [(name, value)])

/-- The name of a long option and the value after its equals sign, if there is one. -/
def splitLong (cs : List Char) : String × Option String :=
  let (name, rest) := cs.span (· != '=')
  (.ofList name, match rest with
    | [] => none
    | _ :: value => some (.ofList value))

/-- Whether a text cannot be the value of an option that waits for one. -/
def looksLikeOption (argument : String) : Bool :=
  match argument.toList with
  | '-' :: _ :: _ => true
  | _ => false

/-- Reads arguments, given the options before them. -/
def readArguments (given : Given) : List String → Except Stop Given
  | [] => .ok given
  | argument :: rest =>
    match argument.toList with
    | ['-', '-'] => if rest.isEmpty then .ok given else .error .usage
    | '-' :: '-' :: long =>
      match splitLong long with
      | ("help", none) => .error .help
      | ("version", none) => .error .version
      | (name, some value) =>
        if valueOptions.contains name then
          match add given name value with
          | .ok given => readArguments given rest
          | .error stop => .error stop
        else .error .usage
      | (name, none) =>
        if flagOptions.contains name then
          match add given name "" with
          | .ok given => readArguments given rest
          | .error stop => .error stop
        else if valueOptions.contains name then
          match rest with
          | [] => .error .usage
          | value :: rest =>
            if looksLikeOption value then .error .usage
            else
              match add given name value with
              | .ok given => readArguments given rest
              | .error stop => .error stop
        else .error .usage
    | '-' :: 'h' :: _ => .error .help
    | '-' :: 'V' :: _ => .error .version
    | _ => .error .usage

/-- The environment variables of the command. -/
abbrev Environment := List (String × String)

/-- The value of an option, else that of its variable. -/
def valueOf (given : Given) (environment : Environment) (name fallback : String) :
    Option String :=
  given.lookup name <|> environment.lookup fallback

/-- Whether logs are written as JSON: by the flag, else by a variable that says true or false. -/
def jsonLogs? (given : Given) (environment : Environment) : Except Stop Bool :=
  if (given.lookup "json-logs").isSome then .ok true
  else
    match environment.lookup "LOG_JSON" with
    | none => .ok false
    | some "true" => .ok true
    | some "false" => .ok false
    | some _ => .error .usage

/-- What the arguments and the environment ask for. -/
def Arguments.parse (environment : Environment) (arguments : List String) :
    Except Stop Arguments := do
  let given ← readArguments [] arguments
  let jsonLogs ← jsonLogs? given environment
  match given.lookup "pod" with
  | none => .error .usage
  | some pod =>
    return {
      «namespace» := (valueOf given environment "namespace" "POD_NAMESPACE").getD "default"
      pod
      runner := given.lookup "runner"
      enterprise := valueOf given environment "enterprise" "RUNNER_ENTERPRISE"
      organization := valueOf given environment "organization" "RUNNER_ORG"
      repository := valueOf given environment "repository" "RUNNER_REPO"
      config := (given.lookup "config").getD "/config/graceful-stop.yaml"
      dryRun := (given.lookup "dry-run").isSome
      jsonLogs }

/-- The name and the version of the command. -/
def versionLine : String := "runner-drain 0.1.0"

end RunnerRelease.Drain
