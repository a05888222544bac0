import ScriptGate.Metrics.Counter
import ScriptGate.Metrics.Histogram

/-! What the gateway keeps count of, and the text it is published as.

A request leaves its traces one at a time (`Trace`): each is a single step on the
registry, so requests that overlap interleave between them. -/
namespace ScriptGate.Metrics

structure Registry where
  /-- By profile and verdict. -/
  checks : Counter := {}
  /-- By profile and kind of the offending node. -/
  rejections : Counter := {}
  /-- By profile and code. -/
  requestErrors : Counter := {}
  /-- By profile. -/
  checkDuration : Histograms := {}
  draining : Bool := false
  deriving DecidableEq, Repr

inductive Verdict where
  | allowed | rejected
  deriving DecidableEq, Repr

def Verdict.label : Verdict → String
  | .allowed => "allowed"
  | .rejected => "rejected"

/-- One thing a request leaves behind. -/
inductive Trace where
  | duration (profile : String) (d : Duration)
  | check (profile : String) (verdict : Verdict)
  | rejection (profile kind : String)
  | requestError (profile code : String)
  deriving DecidableEq, Repr

namespace Registry

def record (r : Registry) : Trace → Registry
  | .duration profile d =>
    { r with checkDuration := r.checkDuration.observe [("profile", profile)] d }
  | .check profile verdict =>
    { r with checks := r.checks.increment [("profile", profile), ("verdict", verdict.label)] }
  | .rejection profile kind =>
    { r with rejections := r.rejections.increment [("profile", profile), ("kind", kind)] }
  | .requestError profile code =>
    { r with requestErrors := r.requestErrors.increment [("profile", profile), ("code", code)] }

def setDraining (r : Registry) : Registry := { r with draining := true }

/-- Every line of the text, with further gauges at its end. -/
def lines (r : Registry) (extra : List (String × Nat)) : List String :=
  r.checks.lines "rubyguard_checks_total" ++
  r.rejections.lines "rubyguard_rejections_total" ++
  r.requestErrors.lines "rubyguard_request_errors_total" ++
  r.checkDuration.lines "rubyguard_check_duration_micros" ++
  ["# TYPE rubyguard_draining gauge",
    "rubyguard_draining " ++ (if r.draining then "1" else "0")] ++
  extra.map fun (name, value) => name ++ " " ++ toString value

/-- The text of the registry: each line with its end. -/
def render (r : Registry) (extra : List (String × Nat)) : String :=
  String.join ((r.lines extra).map (· ++ "\n"))

end Registry

end ScriptGate.Metrics
