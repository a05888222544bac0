import ScriptGate.Json.Reader
import ScriptGate.Json.Printer
import ScriptGate.Tree.Equality
import ScriptGate.Tree.Traversal
import ScriptGate.Tree.Wire
import ScriptGate.Policy.Evaluation
import ScriptGate.Yaml.Value
import ScriptGate.Text.Alphanumeric
import ScriptGate.Config.Source
import ScriptGate.Profile.Gate
import ScriptGate.Gateway.Http
import ScriptGate.Startup
import ScriptGate.Main
import ScriptGate.Proofs.Config.Violations
import ScriptGate.Proofs.Gateway.Accounting
import ScriptGate.Proofs.Gateway.Cardinality
import ScriptGate.Proofs.Gateway.Interleaving
import ScriptGate.Proofs.Gateway.Transport
import ScriptGate.Proofs.Json.Shortest
import ScriptGate.Proofs.Metrics.Contents
import ScriptGate.Proofs.Metrics.Counting
import ScriptGate.Proofs.Metrics.Cumulative
import ScriptGate.Proofs.Metrics.Exposition
import ScriptGate.Proofs.Metrics.Sample
import ScriptGate.Proofs.Policy.Diagnostics
import ScriptGate.Proofs.Policy.FirstOffender
import ScriptGate.Proofs.Policy.History
import ScriptGate.Proofs.Policy.Loosening
import ScriptGate.Proofs.Policy.Membership
import ScriptGate.Proofs.Policy.Relevance
import ScriptGate.Proofs.Profile.Compilation
import ScriptGate.Proofs.Profile.Effort
import ScriptGate.Proofs.Profile.Verdict
import ScriptGate.Proofs.Tree.Bound
import ScriptGate.Proofs.Tree.Faults
import ScriptGate.Proofs.Tree.Nesting
