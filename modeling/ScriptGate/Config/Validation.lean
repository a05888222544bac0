import ScriptGate.Config.Basic
import ScriptGate.Text.Characters

/-! Which configurations are accepted.

The checks come in a fixed order, and a configuration is refused for the first one
that it fails (`Config.validate`). -/
namespace ScriptGate

/-- What is wrong with a configuration. -/
inductive Violation where
  | unsupportedVersion
  | noProfiles
  | bodyLimit
  | depthLimit
  | blankId
  | callInBoth (profile name : String)
  | constantInBoth (profile name : String)
  | duplicateId (id : String)
  deriving DecidableEq, Repr

namespace Violation

def message : Violation → String
  | .unsupportedVersion => "unsupported config version"
  | .noProfiles => "profiles must not be empty"
  | .bodyLimit => "gateway.max_body_bytes must be between 1024 and 67108864"
  | .depthLimit => "gateway.max_tree_depth must be between 1 and 64"
  | .blankId => "profile id must not be empty"
  | .callInBoth profile name =>
    "profile " ++ profile ++ ": call " ++ name ++ " is in both allow_calls and deny_calls"
  | .constantInBoth profile name =>
    "profile " ++ profile ++ ": constant " ++ name ++
      " is in both allow_constants and deny_constants"
  | .duplicateId id => "duplicate profile id: " ++ id

end Violation

def Settings.validate (s : Settings) : Except Violation Unit :=
  if s.maxBodyBytes < 1024 || 64 * 1024 * 1024 < s.maxBodyBytes then .error .bodyLimit
  else if s.maxTreeDepth < 1 || 64 < s.maxTreeDepth then .error .depthLimit
  else .ok ()

/-- The first name that is on both lists, in the order of the first. -/
def firstOverlap (allow deny : List String) : Option String :=
  allow.find? fun name => deny.contains name

def Profile.validate (p : Profile) : Except Violation Unit :=
  if Text.isBlankText p.id then .error .blankId
  else
    match firstOverlap p.allowCalls p.denyCalls with
    | some name => .error (.callInBoth p.id name)
    | none =>
      match firstOverlap p.allowConstants p.denyConstants with
      | some name => .error (.constantInBoth p.id name)
      | none => .ok ()

/-- Each profile is valid and its id is neither an earlier one nor among `seen`. -/
def validateProfiles (seen : List String) : List Profile → Except Violation Unit
  | [] => .ok ()
  | p :: ps => do
    p.validate
    if seen.contains p.id then .error (.duplicateId p.id)
    else validateProfiles (p.id :: seen) ps

def Config.validate (c : Config) : Except Violation Unit :=
  if c.version ≠ 1 then .error .unsupportedVersion
  else if c.profiles.isEmpty then .error .noProfiles
  else do
    c.gateway.validate
    validateProfiles [] c.profiles

end ScriptGate
