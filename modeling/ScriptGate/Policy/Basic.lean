import ScriptGate.Policy.GrayList
import ScriptGate.Policy.Seeds

/-! Policies: what a script may use.

A policy holds a gray list of identifiers, one of constants, and three switches
for constructs that are refused unless a host turns them on. It also remembers
why it last refused a tree it was shown (`Policy.visit`). -/
namespace ScriptGate

/-- The switches of a policy. All are off unless set. -/
structure Options where
  permitWhileLoops : Bool := false
  permitUntilLoops : Bool := false
  permitDefined : Bool := false
  /-- Refuse identifiers that are not listed. -/
  strictIdentifiers : Bool := false
  /-- Refuse constants that are not listed. -/
  strictConstants : Bool := false
  deriving DecidableEq, Repr

structure Policy where
  identifiers : GrayList
  constants : GrayList
  permitWhileLoops : Bool
  permitUntilLoops : Bool
  permitDefined : Bool
  /-- The message of the last tree refused. -/
  lastRefusal : Option String := none
  deriving DecidableEq, Repr

namespace Policy

/-- The policy of the given switches, with the seed names denied. -/
def ofOptions (o : Options) : Policy where
  identifiers := (GrayList.empty o.strictIdentifiers).denyAll Seeds.deniedCalls
  constants := (GrayList.empty o.strictConstants).denyAll Seeds.deniedConstants
  permitWhileLoops := o.permitWhileLoops
  permitUntilLoops := o.permitUntilLoops
  permitDefined := o.permitDefined

instance : Inhabited Policy := ⟨ofOptions {}⟩

/-- The switches as they stand. -/
def options (p : Policy) : Options where
  permitWhileLoops := p.permitWhileLoops
  permitUntilLoops := p.permitUntilLoops
  permitDefined := p.permitDefined
  strictIdentifiers := p.identifiers.strict
  strictConstants := p.constants.strict

/-- The policy of the switches as they stand, with nothing else kept. -/
def rebuild (p : Policy) : Policy := ofOptions p.options

def allowIdentifier (p : Policy) (name : String) : Policy :=
  { p with identifiers := p.identifiers.allow name }

def denyIdentifier (p : Policy) (name : String) : Policy :=
  { p with identifiers := p.identifiers.deny name }

def allowConstant (p : Policy) (name : String) : Policy :=
  { p with constants := p.constants.allow name }

def denyConstant (p : Policy) (name : String) : Policy :=
  { p with constants := p.constants.deny name }

def identifierAllowed (p : Policy) (name : String) : Bool := p.identifiers.allows name

def constantAllowed (p : Policy) (name : String) : Bool := p.constants.allows name

def setStrictIdentifiers (p : Policy) (strict : Bool) : Policy :=
  { p with identifiers := p.identifiers.setStrict strict }

def setStrictConstants (p : Policy) (strict : Bool) : Policy :=
  { p with constants := p.constants.setStrict strict }

def setPermitWhileLoops (p : Policy) (permit : Bool) : Policy :=
  { p with permitWhileLoops := permit }

def setPermitUntilLoops (p : Policy) (permit : Bool) : Policy :=
  { p with permitUntilLoops := permit }

def setPermitDefined (p : Policy) (permit : Bool) : Policy :=
  { p with permitDefined := permit }

end Policy

end ScriptGate
