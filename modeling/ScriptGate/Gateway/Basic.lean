import ScriptGate.Metrics.Registry
import ScriptGate.Profile.Gate
import ScriptGate.Table

/-! The gateway: a gate for each profile, and the registry of what they did. -/
namespace ScriptGate

open Metrics (Registry)

structure Gateway where
  config : Config
  /-- The gates by profile id. -/
  gates : Table Gate
  registry : Registry := {}

namespace Gateway

/-- The gates of some profiles, on top of those already there. A gate takes the place of an
earlier one of its id. -/
def compile (settings : Settings) (gates : Table Gate) : List Profile → Except Error (Table Gate)
  | [] => .ok gates
  | p :: ps =>
    match Gate.ofProfile settings.maxBodyBytes settings.maxTreeDepth p with
    | .error fault => .error (.profile p.id fault)
    | .ok g => compile settings (gates.put g.profileId g) ps

/-- The gateway of a configuration, before its first request. -/
def ofConfig (c : Config) : Except Error Gateway := do
  return { config := c, gates := ← compile c.gateway {} c.profiles }

def gate? (g : Gateway) (profileId : String) : Option Gate := g.gates.get? profileId

/-- The gauges published beside the registry. -/
def gauges (g : Gateway) : List (String × Nat) := [("rubyguard_profiles", g.gates.size)]

/-- The text of the registry and the gauges. -/
def metrics (g : Gateway) : String := g.registry.render g.gauges

def setDraining (g : Gateway) : Gateway := { g with registry := g.registry.setDraining }

def isDraining (g : Gateway) : Bool := g.registry.draining

end Gateway

end ScriptGate
