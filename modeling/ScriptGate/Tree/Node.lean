import ScriptGate.Tree.Kind

/-! Syntax trees.

A node of a known kind has the fields of that kind's layout, neither more nor
fewer and each of the right sort: `Fields` is indexed by the layout, so a tree
that does not fit the table of kinds cannot be written down. A node of any other
kind has only its tag. -/
namespace ScriptGate

mutual

inductive Node : Type where
  | known (kind : Kind) (fields : Fields kind.layout)
  /-- A node whose tag is no known kind; what else its document holds is not read. -/
  | unrecognized (tag : String)

/-- The contents of the fields of a layout, in order. -/
inductive Fields : Layout → Type where
  | nil : Fields []
  | cons {name : String} {slot : Slot} {rest : Layout} (content : Content slot)
      (tail : Fields rest) : Fields ((name, slot) :: rest)

inductive Content : Slot → Type where
  | token (text : String) : Content .token
  | child (node : Node) : Content .child
  | optional (node : Option Node) : Content .optional
  | list (nodes : List Node) : Content .list
  | parts (parts : List Part) : Content .parts

/-- A part of a string literal: text as it stands, or an interpolated node. -/
inductive Part : Type where
  | fragment (text : String)
  | embedded (node : Node)

end

instance : Inhabited Node := ⟨.unrecognized ""⟩

namespace Node

/-- The tag a node goes by. -/
def tag : Node → String
  | .known kind _ => kind.tag
  | .unrecognized tag => tag

end Node

/-- The first text among the fields: the name a rule about the node reads. -/
def Fields.name : {layout : Layout} → Fields layout → String
  | _, .nil => ""
  | _, .cons (.token text) _ => text
  | _, .cons _ tail => tail.name

/-! ### Constructors for trees built by hand -/

namespace Node

def integer (text : String) : Node := .known .integer (.cons (.token text) .nil)

def identifier (text : String) : Node := .known .identifier (.cons (.token text) .nil)

def constant (text : String) : Node := .known .constant (.cons (.token text) .nil)

def keyword (text : String) : Node := .known .keyword (.cons (.token text) .nil)

def symbol (text : String) : Node := .known .symbol (.cons (.token text) .nil)

/-- A string literal without interpolation. -/
def string (text : String) : Node := .known .string (.cons (.parts [.fragment text]) .nil)

def args (nodes : List Node) : Node := .known .args (.cons (.list nodes) .nil)

/-- A call without a block. Without arguments it has no argument list either. -/
def call (target : Option Node) (identifier : String) (arguments : List Node) : Node :=
  .known .call <|
    .cons (.optional target) <| .cons (.token identifier) <|
    .cons (.optional (if arguments.isEmpty then none else some (args arguments))) <|
    .cons (.optional none) .nil

def statements (nodes : List Node) : Node := .known .statements (.cons (.list nodes) .nil)

def program (nodes : List Node) : Node := .known .program (.cons (.list nodes) .nil)

end Node

end ScriptGate
