import ScriptGate.Tree.Node

/-! All the nodes of a tree in document order, and how deep they stand.

`preorder` lists a node before the nodes under it, and those field by field in the
order of the layout; `depth` counts the levels of nodes, fragments of string
literals adding none. -/
namespace ScriptGate

mutual

def Node.preorder : Node → List Node
  | .known kind fs => .known kind fs :: fs.nodes
  | .unrecognized tag => [.unrecognized tag]

/-- The nodes under the fields, in order. -/
def Fields.nodes : {layout : Layout} → Fields layout → List Node
  | _, .nil => []
  | _, .cons c tail => c.nodes ++ tail.nodes

def Content.nodes : {slot : Slot} → Content slot → List Node
  | _, .token _ => []
  | _, .child n => n.preorder
  | _, .optional none => []
  | _, .optional (some n) => n.preorder
  | _, .list ns => preorderAll ns
  | _, .parts ps => preorderParts ps

def preorderAll : List Node → List Node
  | [] => []
  | n :: ns => n.preorder ++ preorderAll ns

def preorderParts : List Part → List Node
  | [] => []
  | p :: ps => p.nodes ++ preorderParts ps

def Part.nodes : Part → List Node
  | .fragment _ => []
  | .embedded n => n.preorder

end

mutual

def Node.depth : Node → Nat
  | .known _ fs => fs.depth + 1
  | .unrecognized _ => 1

/-- The deepest level under the fields. -/
def Fields.depth : {layout : Layout} → Fields layout → Nat
  | _, .nil => 0
  | _, .cons c tail => max c.depth tail.depth

def Content.depth : {slot : Slot} → Content slot → Nat
  | _, .token _ => 0
  | _, .child n => n.depth
  | _, .optional none => 0
  | _, .optional (some n) => n.depth
  | _, .list ns => depthAll ns
  | _, .parts ps => depthParts ps

def depthAll : List Node → Nat
  | [] => 0
  | n :: ns => max n.depth (depthAll ns)

def depthParts : List Part → Nat
  | [] => 0
  | p :: ps => max p.depth (depthParts ps)

def Part.depth : Part → Nat
  | .fragment _ => 0
  | .embedded n => n.depth

end

end ScriptGate
