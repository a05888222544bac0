import ScriptGate.Policy.Basic
import ScriptGate.Tree.Wire

/-! The configuration of a gateway: its own settings and the profiles it serves. -/
namespace ScriptGate

/-- A named policy: its switches, and the names it lists on top of the seed names. -/
structure Profile where
  id : String
  policy : Options := {}
  allowCalls : List String := []
  denyCalls : List String := []
  allowConstants : List String := []
  denyConstants : List String := []
  deriving DecidableEq, Repr

/-- The settings all profiles share. -/
structure Settings where
  /-- The address to listen on. -/
  listen : String := "0.0.0.0:8080"
  maxBodyBytes : Nat := 1024 * 1024
  maxTreeDepth : Nat := defaultMaxDepth
  deriving DecidableEq, Repr

structure Config where
  version : Nat
  gateway : Settings := {}
  profiles : List Profile := []
  deriving DecidableEq, Repr

/-- The first profile of this id. -/
def Config.profile (c : Config) (id : String) : Option Profile :=
  c.profiles.find? fun p => p.id == id

end ScriptGate
