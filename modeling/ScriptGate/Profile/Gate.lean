import ScriptGate.Config.Basic
import ScriptGate.Error
import ScriptGate.Policy.Evaluation
import ScriptGate.Profile.Name

/-! Gates: profiles made ready to check documents. -/
namespace ScriptGate

/-- A profile's policy with the limits on what it is shown. -/
structure Gate where
  profileId : String
  maxBodyBytes : Nat
  maxTreeDepth : Nat
  policy : Policy
  deriving DecidableEq, Repr

namespace Gate

/-- The policy of a profile. Its names are checked list by list, those it denies before
those it allows. -/
def policyOf (p : Profile) : Except NameFault Policy := do
  let denyCalls ← NameSort.call.compile "deny_calls" p.denyCalls
  let allowCalls ← NameSort.call.compile "allow_calls" p.allowCalls
  let denyConstants ← NameSort.constant.compile "deny_constants" p.denyConstants
  let allowConstants ← NameSort.constant.compile "allow_constants" p.allowConstants
  let policy := Policy.ofOptions p.policy
  let policy := denyCalls.foldl Policy.denyIdentifier policy
  let policy := allowCalls.foldl Policy.allowIdentifier policy
  let policy := denyConstants.foldl Policy.denyConstant policy
  return allowConstants.foldl Policy.allowConstant policy

def ofProfile (maxBodyBytes maxTreeDepth : Nat) (p : Profile) : Except NameFault Gate := do
  return { profileId := p.id, maxBodyBytes, maxTreeDepth, policy := ← policyOf p }

/-- A document of this length is let in. -/
def checkLength (g : Gate) (length : Nat) : Except Error Unit :=
  if g.maxBodyBytes < length then .error .payloadTooLarge else .ok ()

/-- Read a document and evaluate its tree. -/
def check (g : Gate) (body : ByteArray) : Except Error Evaluation := do
  g.checkLength body.size
  match Node.decodeBytes g.maxTreeDepth body with
  | .error fault => .error (.tree fault)
  | .ok tree => .ok (g.policy.evaluate tree)

end Gate

end ScriptGate
