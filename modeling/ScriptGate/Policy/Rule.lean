import ScriptGate.Policy.Basic
import ScriptGate.Tree.Node

/-! What a policy refuses at a single node.

The rules look at a node's kind and at its name, never at the nodes under it
(`Policy.refuse`); a node of no known kind is always refused. -/
namespace ScriptGate

/-- The node a rejection is about: its kind, or the tag shown for it if that is no
known kind. -/
inductive Offender where
  | known (kind : Kind)
  | unrecognized (shown : String)
  deriving DecidableEq, Repr

/-- Why a tree is refused. -/
structure Rejection where
  offender : Offender
  /-- The name or construct that is not allowed. -/
  token : String
  deriving DecidableEq, Repr

namespace Rejection

/-- How much of an unknown tag is shown. -/
def maxShownTag : Nat := 64

/-- The first `n` characters of a text. -/
def clip (s : String) (n : Nat) : String := String.ofList (s.toList.take n)

/-- The label that stands for every unknown tag. -/
def unrecognizedKind : String := "unrecognized"

/-- The tag of the offending node, clipped if it is unknown. -/
def kind (r : Rejection) : String :=
  match r.offender with
  | .known kind => kind.tag
  | .unrecognized shown => shown

/-- The tag of the offending node as a label: one of finitely many. -/
def metricKind (r : Rejection) : String :=
  match r.offender with
  | .known kind => kind.tag
  | .unrecognized _ => unrecognizedKind

def message (r : Rejection) : String := "Not allowed to use '" ++ r.token ++ "'"

end Rejection

namespace Policy

/-- What is not allowed about a node of this kind and name, if anything. -/
def refusedToken (p : Policy) (kind : Kind) (name : String) : Option String :=
  match kind with
  | .keyword => if name ∈ Seeds.allowedKeywords then none else some name
  | .alias => some "alias"
  | .classVariable | .classVariableAssignment => some ("Class Variable: " ++ name)
  | .globalVariable | .globalVariableAssignment => some name
  | .executableString => some "shell access e.g. (exec or backticks ``)"
  | .definedTest => if p.permitDefined then none else some "defined?"
  | .identifier | .call => if p.identifierAllowed name then none else some name
  | .constant => if p.constantAllowed name then none else some ("Constant: " ++ name)
  | .whileLoop | .whileMod => if p.permitWhileLoops then none else some "while"
  | .untilLoop | .untilMod => if p.permitUntilLoops then none else some "until"
  | _ => none

/-- The policy's objection to a node, whatever stands under it. -/
def refuse (p : Policy) : Node → Option Rejection
  | .known kind fields => (p.refusedToken kind fields.name).map (⟨.known kind, ·⟩)
  | .unrecognized tag =>
    let shown := Rejection.clip tag Rejection.maxShownTag
    some ⟨.unrecognized shown, "unrecognized node kind: " ++ shown⟩

end Policy

end ScriptGate
