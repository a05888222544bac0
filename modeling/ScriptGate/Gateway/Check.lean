import ScriptGate.Gateway.Basic

/-! Checking a document against a profile.

The answer depends on the gate of the profile alone (`Gateway.judge`); what the
request leaves in the registry depends on the answer and the time it took
(`traces`). -/
namespace ScriptGate

open Metrics (Trace Duration)

/-- The answer to a request that could be evaluated. -/
structure CheckResponse where
  allowed : Bool
  rejection : Option String
  rejectedKind : Option String
  nodesVisited : Nat
  deriving DecidableEq, Repr

def CheckResponse.ofEvaluation (e : Evaluation) : CheckResponse where
  allowed := e.isAllowed
  rejection := e.message
  rejectedKind := e.rejection.map Rejection.kind
  nodesVisited := e.nodesVisited

namespace Gateway

def judge (g : Gateway) (profileId : String) (body : ByteArray) : Except Error Evaluation :=
  match g.gate? profileId with
  | none => .error (.unknownProfile profileId)
  | some gate => gate.check body

/-- What a request leaves behind, in order. Ids that are no profile's leave no label of
their own. -/
def traces (profileId : String) (elapsed : Duration) : Except Error Evaluation → List Trace
  | .error (.unknownProfile _) => [.requestError "-" ErrorCode.unknownProfile.text]
  | .error e => [.requestError profileId e.code.text]
  | .ok ⟨none, _⟩ => [.duration profileId elapsed, .check profileId .allowed]
  | .ok ⟨some r, _⟩ =>
    [.duration profileId elapsed, .check profileId .rejected, .rejection profileId r.metricKind]

/-- Answer a request and record it. -/
def check (g : Gateway) (elapsed : Duration) (profileId : String) (body : ByteArray) :
    Except Error CheckResponse × Gateway :=
  let outcome := g.judge profileId body
  (outcome.map CheckResponse.ofEvaluation,
    { g with registry := (traces profileId elapsed outcome).foldl Metrics.Registry.record g.registry })

end Gateway

end ScriptGate
