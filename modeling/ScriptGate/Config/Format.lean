import ScriptGate.Config.Basic
import ScriptGate.Json.Basic
import ScriptGate.Yaml.Value

/-! Reading a configuration from the value of a data format.

What a configuration consists of is said once, over the few questions that a format
must answer about its values (`Format`): whether one is a text, a truth value, a
number, a list, or a record with given fields. A field that is not known, a required
field that is missing and a value of the wrong type are refused; `none` is every
kind of refusal. -/
namespace ScriptGate

/-- What the values of a data format mean where a type is expected. -/
structure Format (α : Type) where
  text : α → Option String
  flag : α → Option Bool
  natural : α → Option Nat
  list : α → Option (List α)
  /-- The values of the named fields, in that order; no other field may be there. -/
  record : List String → α → Option (List (Option α))

namespace Format

variable {α β : Type}

/-- A field that may be left out. -/
def field (read : α → Option β) (default : β) : Option α → Option β
  | none => some default
  | some v => read v

/-- A number of so many bits. -/
def word (f : Format α) (bits : Nat) (v : α) : Option Nat :=
  (f.natural v).bind fun n => if n < Nat.pow 2 bits then some n else none

def listOf (f : Format α) (read : α → Option β) (v : α) : Option (List β) := do
  (← f.list v).mapM read

def options (f : Format α) (v : α) : Option Options := do
  match ← f.record ["permit_while_loops", "permit_until_loops", "permit_defined",
      "strict_identifiers", "strict_constants"] v with
  | [whileLoops, untilLoops, defined, identifiers, constants] =>
    return {
      permitWhileLoops := ← field f.flag false whileLoops
      permitUntilLoops := ← field f.flag false untilLoops
      permitDefined := ← field f.flag false defined
      strictIdentifiers := ← field f.flag false identifiers
      strictConstants := ← field f.flag false constants }
  | _ => none

def profile (f : Format α) (v : α) : Option Profile := do
  match ← f.record ["id", "policy", "allow_calls", "deny_calls", "allow_constants",
      "deny_constants"] v with
  | [id, policy, allowCalls, denyCalls, allowConstants, denyConstants] =>
    return {
      id := ← id.bind f.text
      policy := ← field f.options {} policy
      allowCalls := ← field (f.listOf f.text) [] allowCalls
      denyCalls := ← field (f.listOf f.text) [] denyCalls
      allowConstants := ← field (f.listOf f.text) [] allowConstants
      denyConstants := ← field (f.listOf f.text) [] denyConstants }
  | _ => none

def settings (f : Format α) (v : α) : Option Settings := do
  match ← f.record ["listen", "max_body_bytes", "max_tree_depth"] v with
  | [listen, maxBodyBytes, maxTreeDepth] =>
    let default : Settings := {}
    return {
      listen := ← field f.text default.listen listen
      maxBodyBytes := ← field (f.word 64) default.maxBodyBytes maxBodyBytes
      maxTreeDepth := ← field (f.word 64) default.maxTreeDepth maxTreeDepth }
  | _ => none

def config (f : Format α) (v : α) : Option Config := do
  match ← f.record ["version", "gateway", "profiles"] v with
  | [version, gateway, profiles] =>
    return {
      version := ← version.bind (f.word 32)
      gateway := ← field f.settings {} gateway
      profiles := ← field (f.listOf f.profile) [] profiles }
  | _ => none

/-! ### JSON -/

/-- A record is an object, or an array of its first fields in order. -/
def jsonRecord (names : List String) : Json → Option (List (Option Json))
  | .obj members =>
    if members.all fun m => names.contains m.1 then
      some (names.map fun name => Json.member name members)
    else none
  | .arr items =>
    if items.length ≤ names.length then
      some (items.map some ++ List.replicate (names.length - items.length) none)
    else none
  | _ => none

def json : Format Json where
  text
    | .str s => some s
    | _ => none
  flag
    | .bool b => some b
    | _ => none
  natural
    | .num n => n.toNat?
    | _ => none
  list
    | .arr items => some items
    | _ => none
  record := jsonRecord

/-! ### YAML -/

/-- A record is a mapping with a text for each key and no key twice, or nothing at all. -/
def yamlRecord (names : List String) : Yaml.Value → Option (List (Option Yaml.Value))
  | .mapping entries => do
    let fields ← entries.mapM fun (key, value) => return (← key.text?, value)
    let keys := fields.map Prod.fst
    if keys.all names.contains && decide keys.Nodup then
      some (names.map fun name => fields.lookup name)
    else none
  | v => if v.isEmpty then some (names.map fun _ => none) else none

def yaml : Format Yaml.Value where
  text := Yaml.Value.text?
  flag := Yaml.Value.flag?
  natural := Yaml.Value.count?
  list
    | .sequence items => some items
    | v => if v.isEmpty then some [] else none
  record := yamlRecord

end Format

end ScriptGate
