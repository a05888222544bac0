import ScriptGate.Json.Reader
import ScriptGate.Tree.Node

/-! Syntax trees as JSON documents.

A node is an object with its tag under `kind` and its fields under their names: a
token is a string, a child an object, a list of nodes or of string parts an array,
and a part either a string (a fragment) or an object. `decode` reads that form and
reports the first thing wrong with it, `encode` writes it.

A document's nodes may nest as deep as the reader is told, and the levels that are
left are what its recursion descends on. -/
namespace ScriptGate

/-- What is wrong with the document of a tree. -/
inductive TreeFault where
  | invalidJson
  /-- A node stands below the deepest level allowed. -/
  | tooDeep (limit : Nat)
  | notAnObject (found : JsonType)
  | noKind
  | missing (kind : Kind) (field : String)
  | notAString (kind : Kind) (field : String) (found : JsonType)
  | notAnArray (kind : Kind) (field : String) (found : JsonType)
  deriving DecidableEq, Repr

namespace TreeFault

def field (kind : Kind) (name : String) : String :=
  kind.tag ++ " node: field \"" ++ name ++ "\" must be "

def message : TreeFault → String
  | .invalidJson => "invalid json"
  | .tooDeep limit => "tree deeper than " ++ toString limit ++ " levels"
  | .notAnObject found => "expected node object, got " ++ found.name
  | .noKind => "node without string \"kind\" tag"
  | .missing kind name => kind.tag ++ " node: missing field \"" ++ name ++ "\""
  | .notAString kind name found => field kind name ++ "a string, got " ++ found.name
  | .notAnArray kind name found => field kind name ++ "an array, got " ++ found.name

end TreeFault

/-! ### Reading -/

namespace Wire

/-- The array under a name: nothing and `null` are the empty one. -/
def array (kind : Kind) (name : String) : Option Json → Except TreeFault (List Json)
  | none | some .null => .ok []
  | some (.arr items) => .ok items
  | some v => .error (.notAnArray kind name v.type)

/-- A part of a string literal. -/
def part (child : Json → Except TreeFault Node) : Json → Except TreeFault Part
  | .str text => .ok (.fragment text)
  | v => .embedded <$> child v

/-- What the value under a field's name puts into its slot. -/
def content (child : Json → Except TreeFault Node) (kind : Kind) (name : String)
    (found : Option Json) : (slot : Slot) → Except TreeFault (Content slot)
  | .token =>
    match found with
    | none => .error (.missing kind name)
    | some (.str text) => .ok (.token text)
    | some v => .error (.notAString kind name v.type)
  | .child =>
    match found with
    | none | some .null => .error (.missing kind name)
    | some v => .child <$> child v
  | .optional =>
    match found with
    | none | some .null => .ok (.optional none)
    | some v => (fun n => .optional (some n)) <$> child v
  | .list => do
    let items ← array kind name found
    return .list (← items.mapM child)
  | .parts => do
    let items ← array kind name found
    return .parts (← items.mapM (part child))

/-- The fields of a layout among the members of an object; other members are not
looked at. -/
def fields (child : Json → Except TreeFault Node) (kind : Kind)
    (members : List (String × Json)) : (layout : Layout) → Except TreeFault (Fields layout)
  | [] => .ok .nil
  | (name, slot) :: rest => do
    let head ← content child kind name (Json.member name members) slot
    let tail ← fields child kind members rest
    return .cons head tail

/-- The node an object describes. Nothing is read under a tag that is no known kind. -/
def object (child : Json → Except TreeFault Node) : Json → Except TreeFault Node
  | .obj members =>
    match Json.member "kind" members with
    | some (.str tag) =>
      match Kind.ofTag? tag with
      | some kind => .known kind <$> fields child kind members kind.layout
      | none => .ok (.unrecognized tag)
    | _ => .error .noKind
  | v => .error (.notAnObject v.type)

/-- The node a value describes, where `remaining` of the `limit` levels are left. -/
def node (limit : Nat) : (remaining : Nat) → Json → Except TreeFault Node
  | 0, _ => .error (.tooDeep limit)
  | remaining + 1, v => object (node limit remaining) v

end Wire

/-- The levels of nodes allowed unless the caller says otherwise. -/
def defaultMaxDepth : Nat := 48

namespace Node

/-- The tree a JSON value describes. -/
def decode (maxDepth : Nat) (v : Json) : Except TreeFault Node := Wire.node maxDepth maxDepth v

/-- The tree a JSON document describes. -/
def decodeBytes (maxDepth : Nat) (body : ByteArray) : Except TreeFault Node :=
  match Json.ofBytes? body with
  | none => .error .invalidJson
  | some v => decode maxDepth v

end Node

/-! ### Writing -/

mutual

/-- The object of a node, with every field of its kind; `unknown` says how a node of no
known kind is written. -/
def Node.encodeWith (unknown : String → Json) : Node → Json
  | .known kind fs => .obj (("kind", .str kind.tag) :: fs.members unknown)
  | .unrecognized tag => unknown tag

def Fields.members (unknown : String → Json) : {layout : Layout} → Fields layout →
    List (String × Json)
  | _, .nil => []
  | (name, _) :: _, .cons c tail => (name, c.encode unknown) :: tail.members unknown

def Content.encode (unknown : String → Json) : {slot : Slot} → Content slot → Json
  | _, .token text => .str text
  | _, .child n => n.encodeWith unknown
  | _, .optional none => .null
  | _, .optional (some n) => n.encodeWith unknown
  | _, .list ns => .arr (encodeNodes unknown ns)
  | _, .parts ps => .arr (encodeParts unknown ps)

def encodeNodes (unknown : String → Json) : List Node → List Json
  | [] => []
  | n :: ns => n.encodeWith unknown :: encodeNodes unknown ns

def encodeParts (unknown : String → Json) : List Part → List Json
  | [] => []
  | p :: ps => p.encode unknown :: encodeParts unknown ps

def Part.encode (unknown : String → Json) : Part → Json
  | .fragment text => .str text
  | .embedded n => n.encodeWith unknown

end

/-- The document of a tree. -/
def Node.encode : Node → Json := Node.encodeWith fun tag => .obj [("kind", .str tag)]

end ScriptGate
