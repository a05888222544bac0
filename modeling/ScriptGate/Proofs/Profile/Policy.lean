import ScriptGate.Profile.Gate
import ScriptGate.Proofs.Config.Violations
import ScriptGate.Proofs.Pointwise
import ScriptGate.Proofs.Policy.Listing
import ScriptGate.Proofs.Profile.Names

/-! The policy of a profile: its switches are the profile's, and what it says of a name can
be read off the profile's lists and the seed names (`Gate.identifierAllowed_iff`,
`Gate.constantAllowed_iff`). -/
namespace ScriptGate

/-! ### Names put on the lists of a policy -/

namespace Policy

theorem foldl_identifiers (put : GrayList → String → GrayList) (names : List String) (p : Policy) :
    names.foldl (fun p name => { p with identifiers := put p.identifiers name }) p =
      { p with identifiers := names.foldl put p.identifiers } := by
  induction names generalizing p with
  | nil => rfl
  | cons name names ih => exact ih _

theorem foldl_constants (put : GrayList → String → GrayList) (names : List String) (p : Policy) :
    names.foldl (fun p name => { p with constants := put p.constants name }) p =
      { p with constants := names.foldl put p.constants } := by
  induction names generalizing p with
  | nil => rfl
  | cons name names ih => exact ih _

variable (names : List String) (p : Policy)

theorem foldl_denyIdentifier : names.foldl denyIdentifier p =
    { p with identifiers := names.foldl GrayList.deny p.identifiers } :=
  foldl_identifiers GrayList.deny names p

theorem foldl_allowIdentifier : names.foldl allowIdentifier p =
    { p with identifiers := names.foldl GrayList.allow p.identifiers } :=
  foldl_identifiers GrayList.allow names p

theorem foldl_denyConstant : names.foldl denyConstant p =
    { p with constants := names.foldl GrayList.deny p.constants } :=
  foldl_constants GrayList.deny names p

theorem foldl_allowConstant : names.foldl allowConstant p =
    { p with constants := names.foldl GrayList.allow p.constants } :=
  foldl_constants GrayList.allow names p

end Policy

section Layered
variable (strict : Bool) (seeds denied allowed : List String)

/-- The seed names denied, then more names denied, then names allowed. -/
def GrayList.layered : GrayList :=
  allowed.foldl GrayList.allow
    (denied.foldl GrayList.deny ((GrayList.empty strict).denyAll seeds))

theorem GrayList.strict_layered : (layered strict seeds denied allowed).strict = strict := by
  simp only [layered, denyAll, allow_eq_put, deny_eq_put, strict_foldl_put, strict_empty]

theorem GrayList.listing_layered (name : String) :
    (layered strict seeds denied allowed).listing name =
      if name ∈ allowed then some .allowed
      else if name ∈ denied then some .denied
      else if name ∈ seeds then some .denied
      else none := by
  simp only [layered, denyAll, allow_eq_put, deny_eq_put, listing_foldl_put, listing_empty]

theorem GrayList.allows_layered_iff (name : String) :
    (layered strict seeds denied allowed).allows name = true ↔
      name ∈ allowed ∨ name ∉ denied ∧ name ∉ seeds ∧ strict = false := by
  rw [allows_iff, listing_layered, strict_layered]
  by_cases ha : name ∈ allowed
  · simp [ha]
  · by_cases hd : name ∈ denied
    · simp [ha, hd]
    · by_cases hs : name ∈ seeds <;> simp [ha, hd, hs]

end Layered

/-! ### The policy of a profile -/

namespace Gate

theorem policyOf_eq_ok {p : Profile} {policy : Policy} (h : policyOf p = .ok policy) :
    policy =
      { Policy.ofOptions p.policy with
        identifiers := GrayList.layered p.policy.strictIdentifiers Seeds.deniedCalls
          p.denyCalls p.allowCalls
        constants := GrayList.layered p.policy.strictConstants Seeds.deniedConstants
          p.denyConstants p.allowConstants } := by
  unfold policyOf at h
  obtain ⟨denyCalls, hdc, h⟩ := Except.bind_eq_ok_iff.mp h
  obtain ⟨allowCalls, hac, h⟩ := Except.bind_eq_ok_iff.mp h
  obtain ⟨denyConstants, hdk, h⟩ := Except.bind_eq_ok_iff.mp h
  obtain ⟨allowConstants, hak, h⟩ := Except.bind_eq_ok_iff.mp h
  obtain ⟨rfl, -⟩ := (NameSort.compile_eq_ok_iff _ _ _ _).mp hdc
  obtain ⟨rfl, -⟩ := (NameSort.compile_eq_ok_iff _ _ _ _).mp hac
  obtain ⟨rfl, -⟩ := (NameSort.compile_eq_ok_iff _ _ _ _).mp hdk
  obtain ⟨rfl, -⟩ := (NameSort.compile_eq_ok_iff _ _ _ _).mp hak
  obtain rfl := Except.ok.inj h
  rw [Policy.foldl_allowConstant, Policy.foldl_denyConstant, Policy.foldl_allowIdentifier,
    Policy.foldl_denyIdentifier]
  rfl

theorem ofProfile_eq_ok {maxBodyBytes maxTreeDepth : Nat} {p : Profile} {g : Gate}
    (h : ofProfile maxBodyBytes maxTreeDepth p = .ok g) :
    g.maxBodyBytes = maxBodyBytes ∧ g.maxTreeDepth = maxTreeDepth ∧
      policyOf p = .ok g.policy := by
  obtain ⟨policy, hp, h⟩ := Except.bind_eq_ok_iff.mp h
  obtain rfl := Except.ok.inj h
  exact ⟨rfl, rfl, hp⟩

theorem options_policyOf {p : Profile} {policy : Policy} (h : policyOf p = .ok policy) :
    policy.options = p.policy := by
  rw [policyOf_eq_ok h]
  simp only [Policy.options, Policy.ofOptions, GrayList.strict_layered]

theorem identifierAllowed_iff {p : Profile} {policy : Policy} (h : policyOf p = .ok policy)
    (name : String) :
    policy.identifierAllowed name = true ↔ name ∈ p.allowCalls ∨
      name ∉ p.denyCalls ∧ name ∉ Seeds.deniedCalls ∧ p.policy.strictIdentifiers = false := by
  rw [policyOf_eq_ok h]
  exact GrayList.allows_layered_iff _ _ _ _ name

theorem constantAllowed_iff {p : Profile} {policy : Policy} (h : policyOf p = .ok policy)
    (name : String) :
    policy.constantAllowed name = true ↔ name ∈ p.allowConstants ∨
      name ∉ p.denyConstants ∧ name ∉ Seeds.deniedConstants ∧ p.policy.strictConstants = false := by
  rw [policyOf_eq_ok h]
  exact GrayList.allows_layered_iff _ _ _ _ name

end Gate

/-! ### The lists of a profile -/

namespace Profile

/-- The names of a sort that a profile lists in this way. -/
def names (p : Profile) : NameSort → Listing → List String
  | .call, .denied => p.denyCalls
  | .call, .allowed => p.allowCalls
  | .constant, .denied => p.denyConstants
  | .constant, .allowed => p.allowConstants

/-- A valid profile lists no name on both sides. -/
theorem not_mem_denied {p : Profile} (h : p.validate = .ok ()) (sort : NameSort) (name : String)
    (hname : name ∈ p.names sort .allowed) : name ∉ p.names sort .denied := by
  obtain ⟨-, hcalls, hconstants⟩ := p.validate_eq_ok_iff.mp h
  cases sort with
  | call => exact hcalls name hname
  | constant => exact hconstants name hname

end Profile

end ScriptGate
