import ScriptGate.Yaml.Token

/-! The nodes of a YAML document, from its tokens.

A node may carry an anchor, and an alias stands for the node that carries its
anchor. Anchors are numbered: a name takes the number of distinct names before it,
and takes a new number each time it is used again.

The readers take their steps from a bound on the number of steps, of which each
token needs at most three. `none` is every kind of failure. -/
namespace ScriptGate.Yaml

inductive Node where
  | scalar (anchor : Option Nat) (tag : Option TagText) (s : Scalar)
  | sequence (anchor : Option Nat) (items : List Node)
  | mapping (anchor : Option Nat) (entries : List (Node × Node))
  | alias (anchor : Nat)

namespace Node

/-- What stands where nothing is written. -/
def empty : Node := .scalar none none ⟨.plain, ""⟩

end Node

/-- The handles of tags and what they stand for. -/
abbrev TagTable := List (TagText × TagText)

namespace Composer

structure State where
  tokens : List Token
  /-- The anchors' names, each with its number. -/
  names : List (String × Nat) := []

/-- A reader of part of the tokens. -/
abbrev Reader (α : Type) := StateT State Option α

def peek : Reader (Option Token) := return (← get).tokens.head?

def drop : Reader Unit := modify fun s => { s with tokens := s.tokens.tail }

def fail {α : Type} : Reader α := fun _ => none

/-- The next token is one of these. -/
def isNext (among : List Token) : Reader Bool := do
  match ← peek with
  | some t => return among.contains t
  | none => return false

/-- Pass over the next token if it is this one. -/
def accept (t : Token) : Reader Bool := do
  if ← isNext [t] then drop; return true else return false

/-- Number an anchor. -/
def number (name : String) : Reader Nat := modifyGet fun s =>
  let n := s.names.length
  if s.names.any (·.1 == name) then
    (n, { s with names := s.names.map fun (other, m) => (other, if other == name then n else m) })
  else (n, { s with names := s.names ++ [(name, n)] })

/-- The number of an anchor. -/
def resolve (name : String) : Reader Node := do
  match (← get).names.lookup name with
  | some n => return .alias n
  | none => fail

/-- What a tag stands for: its handle must be known, or empty. -/
def tagText (table : TagTable) (name : TagName) : Reader TagText :=
  if name.handle.isEmpty then return name.suffix
  else
    match table.lookup name.handle with
    | some stem => return stem ++ name.suffix
    | none => fail

/-- The anchor and the tag in front of a node, in either order. -/
def properties (table : TagTable) : Reader (Option Nat × Option TagText) := do
  match ← peek with
  | some (.anchor name) =>
    drop
    let n ← number name
    match ← peek with
    | some (.tag tag) => drop; return (some n, some (← tagText table tag))
    | _ => return (some n, none)
  | some (.tag tag) =>
    drop
    match ← peek with
    | some (.anchor name) =>
      drop
      let text ← tagText table tag
      return (some (← number name), some text)
    | _ => return (none, some (← tagText table tag))
  | _ => return (none, none)

/-- An anchor or a tag alone stands for an empty node. -/
def absent (anchor : Option Nat) (tag : Option TagText) : Reader Node :=
  if anchor.isSome || tag.isSome then return .scalar anchor tag ⟨.plain, ""⟩ else fail

mutual

/-- A node. Only in a block may it be a block collection, and only as a key or value may
it be a sequence that is not indented further than its mapping. -/
def node (table : TagTable) : (steps : Nat) → (inBlock indentless : Bool) → Reader Node
  | 0, _, _ => fail
  | steps + 1, inBlock, indentless => do
    match ← peek with
    | some (.alias name) => drop; resolve name
    | _ =>
      let (anchor, tag) ← properties table
      match ← peek with
      | some (.scalar s) => drop; return .scalar anchor tag s
      | some .flowSequenceStart => drop; return .sequence anchor (← flowItems table steps true)
      | some .flowMappingStart => drop; return .mapping anchor (← flowPairs table steps true)
      | some .blockEntry =>
        if indentless then return .sequence anchor (← indentlessItems table steps)
        else absent anchor tag
      | some .blockSequenceStart =>
        if inBlock then drop; return .sequence anchor (← blockItems table steps)
        else absent anchor tag
      | some .blockMappingStart =>
        if inBlock then drop; return .mapping anchor (← blockPairs table steps)
        else absent anchor tag
      | _ => absent anchor tag

/-- A node, or nothing in front of one of these tokens. -/
def nodeUnless (table : TagTable) : (steps : Nat) → (stops : List Token) →
    (inBlock indentless : Bool) → Reader Node
  | 0, _, _, _ => fail
  | steps + 1, stops, inBlock, indentless => do
    if ← isNext stops then return .empty else node table steps inBlock indentless

/-- The entries of a block sequence, up to its end. -/
def blockItems (table : TagTable) : (steps : Nat) → Reader (List Node)
  | 0 => fail
  | steps + 1 => do
    if ← accept .blockEnd then return []
    else if ← accept .blockEntry then
      let item ← nodeUnless table steps [.blockEntry, .blockEnd] true false
      return item :: (← blockItems table steps)
    else fail

/-- The entries of a sequence that stands at its mapping's column. -/
def indentlessItems (table : TagTable) : (steps : Nat) → Reader (List Node)
  | 0 => fail
  | steps + 1 => do
    if ← accept .blockEntry then
      let item ← nodeUnless table steps [.blockEntry, .key, .value, .blockEnd] true false
      return item :: (← indentlessItems table steps)
    else return []

/-- The entries of a block mapping, up to its end. -/
def blockPairs (table : TagTable) : (steps : Nat) → Reader (List (Node × Node))
  | 0 => fail
  | steps + 1 => do
    if ← accept .blockEnd then return []
    else if ← accept .key then
      let key ← nodeUnless table steps [.key, .value, .blockEnd] true true
      let value ← if ← accept .value then
          nodeUnless table steps [.key, .value, .blockEnd] true true
        else pure .empty
      return (key, value) :: (← blockPairs table steps)
    else fail

/-- The items of a flow sequence, up to its end; each but the first stands behind a
comma. A pair is a mapping of its own. -/
def flowItems (table : TagTable) : (steps : Nat) → (first : Bool) → Reader (List Node)
  | 0, _ => fail
  | steps + 1, first => do
    if ← accept .flowSequenceEnd then return []
    else if first then flowItem table steps
    else if ← accept .flowEntry then
      if ← accept .flowSequenceEnd then return [] else flowItem table steps
    else fail

/-- An item of a flow sequence and those behind it. -/
def flowItem (table : TagTable) : (steps : Nat) → Reader (List Node)
  | 0 => fail
  | steps + 1 => do
    let item ←
      if ← accept .key then
        let key ←
          -- Without a key the token that shows so is passed over.
          if ← isNext [.value, .flowEntry, .flowSequenceEnd] then drop; pure .empty
          else node table steps false false
        let value ← if ← accept .value then
            nodeUnless table steps [.flowEntry, .flowSequenceEnd] false false
          else pure .empty
        pure (.mapping none [(key, value)])
      else node table steps false false
    return item :: (← flowItems table steps false)

/-- The entries of a flow mapping, up to its end. -/
def flowPairs (table : TagTable) : (steps : Nat) → (first : Bool) →
    Reader (List (Node × Node))
  | 0, _ => fail
  | steps + 1, first => do
    if ← accept .flowMappingEnd then return []
    else if first then flowPair table steps
    else if ← accept .flowEntry then
      if ← accept .flowMappingEnd then return [] else flowPair table steps
    else fail

/-- An entry of a flow mapping and those behind it. -/
def flowPair (table : TagTable) : (steps : Nat) → Reader (List (Node × Node))
  | 0 => fail
  | steps + 1 => do
    let pair ←
      if ← accept .key then
        let key ← nodeUnless table steps [.value, .flowEntry, .flowMappingEnd] false false
        let value ← if ← accept .value then
            nodeUnless table steps [.flowEntry, .flowMappingEnd] false false
          else pure .empty
        pure (key, value)
      else pure (← node table steps false false, .empty)
    return pair :: (← flowPairs table steps false)

end

/-! ### Documents -/

/-- The handles known without a directive. -/
def defaultTags : TagTable :=
  [(['!'], ['!']), (['!', '!'], "tag:yaml.org,2002:".toList)]

/-- The directives in front of a document: at most one version, which must be 1.1 or
1.2, and each handle at most once. -/
def directives (versioned : Bool) (table : TagTable) : List Token → Option (TagTable × List Token)
  | .directive (.version major minor) :: rest =>
    if versioned || major ≠ 1 || (minor ≠ 1 && minor ≠ 2) then none
    else directives true table rest
  | .directive (.tag handle stem) :: rest =>
    if table.any (·.1 == handle) then none
    else directives versioned (table ++ [(handle, stem)]) rest
  | rest => some (table ++ defaultTags, rest)

/-- A token that cannot start the content of a document. -/
def endsDocument : Option Token → Bool
  | none | some (.directive _) | some .documentStart | some .documentEnd => true
  | _ => false

/-- The only document of a text: its root. -/
def document (tokens : List Token) : Option Node := do
  let steps := 4 * tokens.length + 8
  let explicit := match tokens.head? with
    | some (.directive _) | some .documentStart => true
    | _ => false
  if tokens.isEmpty then some .empty
  else
    let (table, rest) ← directives false [] tokens
    let body ← if explicit then
        match rest with
        | .documentStart :: rest => some rest
        | _ => none
      else some rest
    let (root, after) ←
      if explicit && endsDocument body.head? then some (Node.empty, body)
      else (node table steps true false { tokens := body }).map fun (n, s) => (n, s.tokens)
    if after.all (· == .documentEnd) then some root else none

end Composer

/-- The root of the only document of a text. -/
def Node.ofText? (text : String) : Option Node := (tokens? text).bind Composer.document

end ScriptGate.Yaml
