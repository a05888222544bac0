import ScriptGate.Yaml.Node

/-! The values of YAML documents: nodes with every alias replaced by what it stands
for, and what a scalar means where a number or a truth value is expected.

An alias means the last node that carries its number. Replacing aliases can blow a
document up, so a document may use at most a hundred of them for each of its parts
(`Node.parts`), counted as they are met on the way. -/
namespace ScriptGate.Yaml

inductive Value where
  | scalar (tag : Option TagText) (s : Scalar)
  | sequence (items : List Value)
  | mapping (entries : List (Value × Value))

mutual

/-- The parts a node is written in: a scalar or an alias is one, a collection has its
two ends. -/
def Node.parts : Node → Nat
  | .scalar .. => 1
  | .alias _ => 1
  | .sequence _ items => partsOf items + 2
  | .mapping _ entries => partsOfPairs entries + 2

def partsOf : List Node → Nat
  | [] => 0
  | n :: ns => n.parts + partsOf ns

def partsOfPairs : List (Node × Node) → Nat
  | [] => 0
  | (k, v) :: rest => k.parts + v.parts + partsOfPairs rest

end

mutual

/-- The nodes that carry an anchor, in document order. -/
def Node.anchored : Node → List (Nat × Node)
  | .scalar anchor tag s => marked anchor (.scalar anchor tag s)
  | .alias _ => []
  | .sequence anchor items => marked anchor (.sequence anchor items) ++ anchoredIn items
  | .mapping anchor entries =>
    marked anchor (.mapping anchor entries) ++ anchoredInPairs entries

def anchoredIn : List Node → List (Nat × Node)
  | [] => []
  | n :: ns => n.anchored ++ anchoredIn ns

def anchoredInPairs : List (Node × Node) → List (Nat × Node)
  | [] => []
  | (k, v) :: rest => k.anchored ++ v.anchored ++ anchoredInPairs rest

def marked (anchor : Option Nat) (n : Node) : List (Nat × Node) :=
  match anchor with
  | some a => [(a, n)]
  | none => []

end

/-! ### Replacing aliases -/

/-- The value of a node, where aliases are looked up in `table`. The levels of nodes
and aliases left are what the recursion descends on; the state is how many aliases
may still be replaced. -/
def Node.value (table : List (Nat × Node)) : (levels : Nat) → Node → StateT Nat Option Value
  | 0, _ => failure
  | _ + 1, .scalar _ tag s => return .scalar tag s
  | levels + 1, .sequence _ items => return .sequence (← items.mapM (Node.value table levels))
  | levels + 1, .mapping _ entries =>
    return .mapping (← entries.mapM fun (k, v) =>
      return (← Node.value table levels k, ← Node.value table levels v))
  | levels + 1, .alias anchor => do
    match table.lookup anchor, ← get with
    | some target, left + 1 => set left; Node.value table levels target
    | _, _ => failure

/-- How deep nodes and aliases may lead into each other. -/
def maxLevels : Nat := 128

/-- The value of the only document of a text. -/
def Value.ofText? (text : String) : Option Value := do
  let root ← Node.ofText? text
  let (v, _) ← (root.value root.anchored.reverse maxLevels).run (100 * root.parts)
  return v

/-! ### Scalars where a type is expected -/

namespace Value

def boolTag : TagText := "tag:yaml.org,2002:bool".toList

def intTag : TagText := "tag:yaml.org,2002:int".toList

/-- The text of a scalar that is open to interpretation: a plain one, or a literal block
with the tag of the type expected. -/
def openText (expected : TagText) : Value → Option String
  | .scalar tag s =>
    if s.style = .plain || (s.style = .literal && tag = some expected) then some s.text else none
  | _ => none

/-- Any scalar is a text. -/
def text? : Value → Option String
  | .scalar _ s => some s.text
  | _ => none

def flag? (v : Value) : Option Bool :=
  match v.openText boolTag with
  | some "true" | some "True" | some "TRUE" => some true
  | some "false" | some "False" | some "FALSE" => some false
  | _ => none

/-- The number written in these digits of a base up to sixteen. -/
def ofDigits (base : Nat) (digits : List Char) : Option Nat :=
  if digits.isEmpty then none
  else digits.foldlM (fun n c => do
    let d ← Text.hexValue c
    if d < base then some (base * n + d) else none) 0

/-- A natural number: decimal without leading zeros, or with the mark of another base,
after at most one plus sign. -/
def natural (text : List Char) : Option Nat :=
  let text := match text with
    | '+' :: rest => rest
    | text => text
  match text with
  | '0' :: 'x' :: digits => ofDigits 16 digits
  | '0' :: 'o' :: digits => ofDigits 8 digits
  | '0' :: 'b' :: digits => ofDigits 2 digits
  | '0' :: _ :: _ => none
  | digits => ofDigits 10 digits

def count? (v : Value) : Option Nat := (v.openText intTag).bind (natural ·.toList)

/-- Nothing was written. -/
def isEmpty : Value → Bool
  | .scalar _ s => s.style = .plain && s.text.isEmpty
  | _ => false

end Value

end ScriptGate.Yaml
