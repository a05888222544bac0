import ScriptGate.Config.Source
import ScriptGate.Gateway.Basic
import ScriptGate.SocketAddress

/-! Starting up: from a configuration file to a gateway and the address it serves. -/
namespace ScriptGate

inductive StartupError where
  | gate (e : Error)
  | badAddress
  deriving DecidableEq, Repr

def StartupError.message : StartupError → String
  | .gate e => e.message
  | .badAddress => "gateway.listen must be a valid SocketAddr: invalid socket address syntax"

namespace Startup

/-- The variable that names the configuration file, and the file if it is not set. -/
def configVariable : String := "RUBYGUARD_CONFIG"

def defaultPath : String := "rubyguard.yaml"

/-- The gateway that a configuration file describes; the address is looked at before the
profiles are compiled. -/
def start (path : String) (contents : Except ReadFault ByteArray) :
    Except StartupError (SocketAddress × Gateway) := do
  let config ← (Config.ofFile path contents).mapError .gate
  match SocketAddress.ofText? config.gateway.listen with
  | none => .error .badAddress
  | some address => return (address, ← (Gateway.ofConfig config).mapError .gate)

end Startup

end ScriptGate
