import ScriptGate.Policy.Rule

/-! Evaluating a tree: a walk in document order that ends at the first node the
policy refuses.

The walk counts the nodes it enters. It looks at a node before the nodes under it,
so under a refused node nothing is entered. -/
namespace ScriptGate

/-- Where a walk ended early. -/
structure Halt where
  rejection : Rejection
  /-- The nodes entered, the refused one included. -/
  visited : Nat
  deriving DecidableEq, Repr

mutual

/-- Enter a node after `visited` others: how many have then been entered. -/
def Node.walk (p : Policy) : Node → (visited : Nat) → Except Halt Nat
  | .known kind fs, visited =>
    match p.refuse (.known kind fs) with
    | some rejection => .error ⟨rejection, visited + 1⟩
    | none => fs.walk p (visited + 1)
  | .unrecognized tag, visited =>
    match p.refuse (.unrecognized tag) with
    | some rejection => .error ⟨rejection, visited + 1⟩
    | none => .ok (visited + 1)

def Fields.walk (p : Policy) : {layout : Layout} → Fields layout → (visited : Nat) →
    Except Halt Nat
  | _, .nil, visited => .ok visited
  | _, .cons c tail, visited =>
    match c.walk p visited with
    | .error halt => .error halt
    | .ok visited => tail.walk p visited

def Content.walk (p : Policy) : {slot : Slot} → Content slot → (visited : Nat) →
    Except Halt Nat
  | _, .token _, visited => .ok visited
  | _, .child n, visited => n.walk p visited
  | _, .optional none, visited => .ok visited
  | _, .optional (some n), visited => n.walk p visited
  | _, .list ns, visited => walkNodes p ns visited
  | _, .parts ps, visited => walkParts p ps visited

def walkNodes (p : Policy) : List Node → (visited : Nat) → Except Halt Nat
  | [], visited => .ok visited
  | n :: ns, visited =>
    match n.walk p visited with
    | .error halt => .error halt
    | .ok visited => walkNodes p ns visited

def walkParts (p : Policy) : List Part → (visited : Nat) → Except Halt Nat
  | [], visited => .ok visited
  | part :: ps, visited =>
    match part.walk p visited with
    | .error halt => .error halt
    | .ok visited => walkParts p ps visited

def Part.walk (p : Policy) : Part → (visited : Nat) → Except Halt Nat
  | .fragment _, visited => .ok visited
  | .embedded n, visited => n.walk p visited

end

/-- What a policy makes of a tree. -/
structure Evaluation where
  rejection : Option Rejection
  nodesVisited : Nat
  deriving DecidableEq, Repr

namespace Evaluation

def isAllowed (e : Evaluation) : Bool := e.rejection.isNone

def message (e : Evaluation) : Option String := e.rejection.map Rejection.message

end Evaluation

namespace Policy

def evaluate (p : Policy) (tree : Node) : Evaluation :=
  match tree.walk p 0 with
  | .ok visited => ⟨none, visited⟩
  | .error halt => ⟨some halt.rejection, halt.visited⟩

/-- Evaluate a tree and remember the message if it is refused. -/
def visit (p : Policy) (tree : Node) : Bool × Policy :=
  match (p.evaluate tree).message with
  | some message => (false, { p with lastRefusal := some message })
  | none => (true, p)

end Policy

end ScriptGate
