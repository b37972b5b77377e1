import RunnerRelease.Yaml.Token

/-!
# Nodes of YAML

The tree that the tokens of a text make up: scalars, sequences, mappings, and
references to anchored nodes.

## Implementation notes

An anchor takes the number of different anchor names met before it, so that an anchor
whose name is taken again shares a number with the next new one; a reference leads to
the last node that got its number. Of an anchored collection only the fact is kept.
Readers of collections are given fuel; every two rounds use a token.
-/

namespace RunnerRelease.Yaml

/-- A scalar with the tag that was written before it. -/
structure Scalar where
  style : ScalarStyle
  tag : Option String
  text : String
deriving DecidableEq, Repr

/-- A node of a document. -/
inductive Node where
  | scalar (value : Scalar)
  | sequence (items : List Node)
  | mapping (entries : List (Node × Node))
  /-- The node that has the anchor with this number. -/
  | reference (anchor : Nat)

/-- A document: its root, and the anchored nodes by their numbers, the last one first. -/
structure YamlDocument where
  root : Node
  anchors : List (Nat × Option Scalar)

/-- The state of the reading of nodes. -/
structure NodeReader where
  tokens : List Token
  /-- What the tag handles stand for. -/
  handles : List (String × String)
  /-- Anchor names with their numbers, the last one first. -/
  names : List (String × Nat) := []
  anchors : List (Nat × Option Scalar) := []

namespace NodeReader

/-- The token that comes next. -/
def next (r : NodeReader) : Token := r.tokens.headD .streamEnd

/-- Moves past a token. -/
def skip (r : NodeReader) : NodeReader := { r with tokens := r.tokens.tail }

/-- Gives a node its anchor, if it has one. -/
def register (r : NodeReader) (anchor : Option String) (scalar : Option Scalar) : NodeReader :=
  match anchor with
  | none => r
  | some name =>
    let number := (r.names.map (·.1)).eraseDups.length
    { r with names := (name, number) :: r.names, anchors := (number, scalar) :: r.anchors }

/-- The tag that a handle and a suffix make up, if the handle stands for something. -/
def resolveTag (r : NodeReader) (handle suffix : String) : Option String :=
  if handle.isEmpty then some suffix
  else (r.handles.lookup handle).map (· ++ suffix)

/-- Reads the anchor and the tag of a node, in either order. -/
def readProperties (r : NodeReader) : Option (Option String × Option String × NodeReader) :=
  match r.tokens with
  | .anchor name :: .tag handle suffix :: rest =>
    (r.resolveTag handle suffix).map fun tag => (some name, some tag, { r with tokens := rest })
  | .tag handle suffix :: .anchor name :: rest =>
    (r.resolveTag handle suffix).map fun tag => (some name, some tag, { r with tokens := rest })
  | .anchor name :: rest => some (some name, none, { r with tokens := rest })
  | .tag handle suffix :: rest =>
    (r.resolveTag handle suffix).map fun tag => (none, some tag, { r with tokens := rest })
  | _ => some (none, none, r)

/-- The scalar that stands where nothing is written. -/
def emptyScalar : Node := .scalar ⟨.plain, none, ""⟩

mutual

/-- Reads a node; block collections and entries without indentation only where they may stand. -/
def readNode (block indentless : Bool) : Nat → NodeReader → Option (Node × NodeReader)
  | 0, _ => none
  | fuel + 1, r =>
    match r.next with
    | .reference name => (r.names.lookup name).map fun number => (.reference number, r.skip)
    | _ => do
      let (anchor, tag, r) ← r.readProperties
      let opened := r.register anchor none
      match r.next with
      | .blockEntry =>
        if indentless then readIndentless [] fuel opened
        else if anchor.isSome || tag.isSome then
          return (.scalar ⟨.plain, tag, ""⟩, r.register anchor (some ⟨.plain, tag, ""⟩))
        else none
      | .scalar style text =>
        let scalar : Scalar := ⟨style, tag, text⟩
        return (.scalar scalar, (r.register anchor (some scalar)).skip)
      | .flowSequenceStart => readFlowSequence [] true fuel opened.skip
      | .flowMappingStart => readFlowMapping [] true fuel opened.skip
      | token =>
        if block && token = .blockSequenceStart then readBlockSequence [] fuel opened.skip
        else if block && token = .blockMappingStart then readBlockMapping [] fuel opened.skip
        else if anchor.isSome || tag.isSome then
          return (.scalar ⟨.plain, tag, ""⟩, r.register anchor (some ⟨.plain, tag, ""⟩))
        else none

/-- Reads the entries of a block sequence. -/
def readBlockSequence (items : List Node) : Nat → NodeReader → Option (Node × NodeReader)
  | 0, _ => none
  | fuel + 1, r =>
    match r.next with
    | .blockEntry => do
      let (item, r) ← readUnless [.blockEntry, .blockEnd] true false fuel r.skip
      readBlockSequence (items ++ [item]) fuel r
    | .blockEnd => some (.sequence items, r.skip)
    | _ => none

/-- Reads the entries of a block sequence that is not indented. -/
def readIndentless (items : List Node) : Nat → NodeReader → Option (Node × NodeReader)
  | 0, _ => none
  | fuel + 1, r =>
    match r.next with
    | .blockEntry => do
      let (item, r) ← readUnless [.blockEntry, .key, .value, .blockEnd] true false fuel r.skip
      readIndentless (items ++ [item]) fuel r
    | _ => some (.sequence items, r)

/-- Reads a node unless one of the given tokens stands in its place. -/
def readUnless (stops : List Token) (block indentless : Bool) :
    Nat → NodeReader → Option (Node × NodeReader)
  | 0, _ => none
  | fuel + 1, r =>
    if stops.contains r.next then some (emptyScalar, r) else readNode block indentless fuel r

/-- Reads the value of an entry if its indicator is there. -/
def readEntryValue (stops : List Token) (block indentless : Bool) :
    Nat → NodeReader → Option (Node × NodeReader)
  | 0, _ => none
  | fuel + 1, r =>
    if r.next = .value then readUnless stops block indentless fuel r.skip
    else some (emptyScalar, r)

/-- Reads the entries of a block mapping. -/
def readBlockMapping (entries : List (Node × Node)) : Nat → NodeReader → Option (Node × NodeReader)
  | 0, _ => none
  | fuel + 1, r =>
    match r.next with
    | .key => do
      let (key, r) ← readUnless [.key, .value, .blockEnd] true true fuel r.skip
      let (value, r) ← readEntryValue [.key, .value, .blockEnd] true true fuel r
      readBlockMapping (entries ++ [(key, value)]) fuel r
    | .blockEnd => some (.mapping entries, r.skip)
    | _ => none

/-- Reads the entries of a sequence in brackets; a comma stands before each but the first. -/
def readFlowSequence (items : List Node) (first : Bool) :
    Nat → NodeReader → Option (Node × NodeReader)
  | 0, _ => none
  | fuel + 1, r => do
    if r.next = .flowSequenceEnd then return (.sequence items, r.skip)
    else
      let r ← if first then some r else if r.next = .flowEntry then some r.skip else none
      match r.next with
      | .flowSequenceEnd => return (.sequence items, r.skip)
      | .key =>
        let r := r.skip
        -- the token in place of a missing key is passed over together with it
        let (key, r) ←
          if [Token.value, .flowEntry, .flowSequenceEnd].contains r.next then
            some (emptyScalar, r.skip)
          else readNode false false fuel r
        let (value, r) ← readEntryValue [.flowEntry, .flowSequenceEnd] false false fuel r
        readFlowSequence (items ++ [.mapping [(key, value)]]) false fuel r
      | _ =>
        let (item, r) ← readNode false false fuel r
        readFlowSequence (items ++ [item]) false fuel r

/-- Reads the entries of a mapping in braces; a comma stands before each but the first. -/
def readFlowMapping (entries : List (Node × Node)) (first : Bool) :
    Nat → NodeReader → Option (Node × NodeReader)
  | 0, _ => none
  | fuel + 1, r => do
    if r.next = .flowMappingEnd then return (.mapping entries, r.skip)
    else
      let r ← if first then some r else if r.next = .flowEntry then some r.skip else none
      match r.next with
      | .flowMappingEnd => return (.mapping entries, r.skip)
      | .key =>
        let (key, r) ← readUnless [.value, .flowEntry, .flowMappingEnd] false false fuel r.skip
        let (value, r) ← readEntryValue [.flowEntry, .flowMappingEnd] false false fuel r
        readFlowMapping (entries ++ [(key, value)]) false fuel r
      | _ =>
        let (key, r) ← readNode false false fuel r
        readFlowMapping (entries ++ [(key, emptyScalar)]) false fuel r

end

/-- Reads the directives before a document; a version and a handle may be declared once. -/
def readDirectives : Nat → Bool → List (String × String) → NodeReader →
    Option (List (String × String) × NodeReader)
  | 0, _, handles, r => some (handles, r)
  | fuel + 1, versioned, handles, r =>
    match r.next with
    | .version major minor =>
      if !versioned && major == 1 && (minor == 1 || minor == 2) then
        readDirectives fuel true handles r.skip
      else none
    | .tagHandle handle stem =>
      if (handles.lookup handle).isSome then none
      else readDirectives fuel versioned (handles ++ [(handle, stem)]) r.skip
    | _ => some (handles, r)

/-- What the tag handles stand for unless a document declares something else. -/
def defaultHandles : List (String × String) := [("!", "!"), ("!!", "tag:yaml.org,2002:")]

/-- Reads the root of the first document. -/
def readRoot (fuel : Nat) (r : NodeReader) : Option (Node × NodeReader) :=
  let explicit := match r.next with
    | .version .. | .tagHandle .. | .documentStart => true
    | _ => false
  if explicit then do
    let (handles, r) ← readDirectives fuel false [] r
    if r.next = .documentStart then
      let r := { r.skip with handles := handles ++ defaultHandles }
      match r.next with
      | .version .. | .tagHandle .. | .documentStart | .documentEnd | .streamEnd =>
        return (emptyScalar, r)
      | _ => readNode true false fuel r
    else none
  else readNode true false fuel r

end NodeReader

/--
The document that the tokens of a text make up, absent for a text without one. A text
with something after its first document is refused.
-/
def document? (tokens : List Token) : Option (Option YamlDocument) :=
  if tokens.head? = some .streamEnd then some none
  else do
    let fuel := 4 * tokens.length + 4
    let (root, r) ←
      NodeReader.readRoot fuel { tokens, handles := NodeReader.defaultHandles }
    if (r.tokens.dropWhile (· = .documentEnd)).head? = some .streamEnd then
      return some { root, anchors := r.anchors }
    else none

end RunnerRelease.Yaml
