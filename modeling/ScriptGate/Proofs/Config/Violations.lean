import Mathlib.Data.List.Nodup
import ScriptGate.Config.Validation

/-! The first thing wrong with a configuration.

A configuration is put to a list of checks: four of the gateway, then four of each profile
in turn (`Config.checks`). What a check finds depends on the configuration and not on the
checks before it (`Config.violation?`); in particular an id is a repetition if an earlier
profile has it, while validation keeps a list of the ids that it has seen. Validation
reports what the first check finds that finds anything (`Config.validate_eq`), and so it
accepts what no check objects to (`Config.validate_eq_ok_iff`). -/
namespace ScriptGate

/-! ### The checks -/

/-- What is checked of a profile, in this order. -/
inductive Aspect where
  | id | calls | constants | distinct
  deriving DecidableEq, Repr

def Aspect.all : List Aspect := [.id, .calls, .constants, .distinct]

/-- What is checked of a configuration, its profiles given by their places. -/
inductive Check where
  | version | profiles | bodyLimit | depthLimit
  | profile (place : Nat) (aspect : Aspect)
  deriving DecidableEq, Repr

/-- What is wrong with a profile that comes after these ones. -/
def Profile.violation? (earlier : List Profile) (p : Profile) : Aspect → Option Violation
  | .id => if p.id.toList.any (!Text.isBlank ·) then none else some .blankId
  | .calls => (p.allowCalls.find? (· ∈ p.denyCalls)).map (.callInBoth p.id)
  | .constants => (p.allowConstants.find? (· ∈ p.denyConstants)).map (.constantInBoth p.id)
  | .distinct => if ∀ q ∈ earlier, q.id ≠ p.id then none else some (.duplicateId p.id)

namespace Config

/-- What a check finds wrong. -/
def violation? (c : Config) : Check → Option Violation
  | .version => if c.version = 1 then none else some .unsupportedVersion
  | .profiles => if c.profiles ≠ [] then none else some .noProfiles
  | .bodyLimit =>
    if 1024 ≤ c.gateway.maxBodyBytes ∧ c.gateway.maxBodyBytes ≤ 67108864 then none
    else some .bodyLimit
  | .depthLimit =>
    if 1 ≤ c.gateway.maxTreeDepth ∧ c.gateway.maxTreeDepth ≤ 64 then none
    else some .depthLimit
  | .profile place aspect =>
    c.profiles[place]?.bind fun p => p.violation? (c.profiles.take place) aspect

/-- The checks of the profiles at the given places. -/
def profileChecks (places : List Nat) : List Check :=
  places.flatMap fun place => Aspect.all.map (Check.profile place)

theorem profileChecks_cons (place : Nat) (places : List Nat) :
    profileChecks (place :: places) =
      Aspect.all.map (Check.profile place) ++ profileChecks places :=
  List.flatMap_cons

/-- All checks, in order. -/
def checks (c : Config) : List Check :=
  [.version, .profiles, .bodyLimit, .depthLimit] ++ profileChecks (List.range c.profiles.length)

/-- Nothing is wrong with a configuration. -/
structure Valid (c : Config) : Prop where
  version : c.version = 1
  profiles : c.profiles ≠ []
  bodyLimit : 1024 ≤ c.gateway.maxBodyBytes ∧ c.gateway.maxBodyBytes ≤ 67108864
  depthLimit : 1 ≤ c.gateway.maxTreeDepth ∧ c.gateway.maxTreeDepth ≤ 64
  id : ∀ p ∈ c.profiles, ∃ ch ∈ p.id.toList, Text.isBlank ch = false
  calls : ∀ p ∈ c.profiles, ∀ name ∈ p.allowCalls, name ∉ p.denyCalls
  constants : ∀ p ∈ c.profiles, ∀ name ∈ p.allowConstants, name ∉ p.denyConstants
  distinct : (c.profiles.map Profile.id).Nodup

end Config

/-! ### Validation, check by check -/

namespace Violation

/-- Fail with what was found, if anything. -/
def report : Option Violation → Except Violation Unit
  | some v => .error v
  | none => .ok ()

section FindSome
variable {α : Type} (f : α → Option Violation)

theorem report_findSome?_append (as bs : List α) :
    report ((as ++ bs).findSome? f) =
      (report (as.findSome? f) >>= fun _ => report (bs.findSome? f)) := by
  rw [List.findSome?_append]
  cases as.findSome? f <;> rfl

theorem report_findSome?_cons (a : α) (as : List α) :
    report ((a :: as).findSome? f) = (report (f a) >>= fun _ => report (as.findSome? f)) := by
  rw [List.findSome?_cons]
  cases f a <;> rfl

end FindSome

theorem report_eq_ok_iff (o : Option Violation) : report o = .ok () ↔ o = none := by
  cases o with
  | none => exact iff_of_true rfl rfl
  | some v => exact iff_of_false nofun nofun

theorem report_eq_error_iff (o : Option Violation) (v : Violation) :
    report o = .error v ↔ o = some v := by
  cases o with
  | none => exact iff_of_false nofun nofun
  | some w => rw [report, Except.error.injEq, Option.some.injEq]

end Violation

open Violation (report)

/-- A guard that fails is a check that finds something. -/
theorem guard_eq {a b : Prop} [Decidable a] [Decidable b] (h : a ↔ ¬ b) (v : Violation)
    (next : Except Violation Unit) :
    (if a then .error v else next) = (report (if b then none else some v) >>= fun _ => next) := by
  by_cases hb : b
  · rw [if_pos hb, if_neg (fun ha => h.mp ha hb)]
    rfl
  · rw [if_neg hb, if_pos (h.mpr hb)]
    rfl

theorem Config.validate_gateway_eq (c : Config) :
    c.gateway.validate = report ([Check.bodyLimit, .depthLimit].findSome? c.violation?) := by
  have hbody : (c.gateway.maxBodyBytes < 1024 || 64 * 1024 * 1024 < c.gateway.maxBodyBytes) = true ↔
      ¬ (1024 ≤ c.gateway.maxBodyBytes ∧ c.gateway.maxBodyBytes ≤ 67108864) := by
    rw [Bool.or_eq_true, decide_eq_true_eq, decide_eq_true_eq]
    omega
  have hdepth : (c.gateway.maxTreeDepth < 1 || 64 < c.gateway.maxTreeDepth) = true ↔
      ¬ (1 ≤ c.gateway.maxTreeDepth ∧ c.gateway.maxTreeDepth ≤ 64) := by
    rw [Bool.or_eq_true, decide_eq_true_eq, decide_eq_true_eq]
    omega
  rw [Settings.validate, guard_eq hbody, guard_eq hdepth, Violation.report_findSome?_cons,
    Violation.report_findSome?_cons]
  rfl

theorem isBlankText_iff (s : String) :
    Text.isBlankText s = true ↔ ¬ s.toList.any (!Text.isBlank ·) = true := by
  simp [Text.isBlankText]

theorem firstOverlap_eq (allow deny : List String) :
    firstOverlap allow deny = allow.find? (· ∈ deny) := by
  simp [firstOverlap]

theorem Profile.validate_eq (earlier : List Profile) (p : Profile) :
    p.validate = report ([Aspect.id, .calls, .constants].findSome? (p.violation? earlier)) := by
  rw [Profile.validate, guard_eq (isBlankText_iff p.id), firstOverlap_eq, firstOverlap_eq,
    Violation.report_findSome?_cons]
  congr 1
  funext _
  simp only [List.findSome?_cons, Profile.violation?]
  cases p.allowCalls.find? (· ∈ p.denyCalls) with
  | some name => rfl
  | none => cases p.allowConstants.find? (· ∈ p.denyConstants) <;> rfl

/-- One turn of the loop over the profiles is the four checks of a profile. -/
theorem validateProfiles_cons {seen : List String} {earlier : List Profile}
    (hseen : ∀ id, id ∈ seen ↔ ∃ q ∈ earlier, q.id = id) (p : Profile) (ps : List Profile) :
    validateProfiles seen (p :: ps) =
      (report (Aspect.all.findSome? (p.violation? earlier)) >>= fun _ =>
        validateProfiles (p.id :: seen) ps) := by
  have hdistinct : seen.contains p.id = true ↔ ¬ ∀ q ∈ earlier, q.id ≠ p.id := by
    rw [List.contains_iff_mem, hseen]
    simp
  have hall : Aspect.all = [.id, .calls, .constants] ++ [.distinct] := rfl
  rw [validateProfiles, p.validate_eq earlier, guard_eq hdistinct, hall,
    Violation.report_findSome?_append, bind_assoc, List.findSome?_singleton]
  rfl

/-- **The loop over the profiles reports what the first of their checks finds.** The ids it has
seen are those of the profiles it is done with. -/
theorem validateProfiles_eq (c : Config) {done ps : List Profile} (hc : c.profiles = done ++ ps)
    {seen : List String} (hseen : ∀ id, id ∈ seen ↔ ∃ q ∈ done, q.id = id) :
    validateProfiles seen ps =
      report ((Config.profileChecks (List.range' done.length ps.length)).findSome? c.violation?) := by
  -- On the profiles that are left: the first of them stands right behind those that are done.
  induction ps generalizing done seen with
  | nil => rfl
  | cons p ps ih =>
    have hplace : c.profiles[done.length]? = some p := by
      rw [hc, List.getElem?_append_right (Nat.le_refl _), Nat.sub_self]
      rfl
    have hearlier : c.profiles.take done.length = done := by
      rw [hc, List.take_left]
    have hchecks : (Aspect.all.map (Check.profile done.length)).findSome? c.violation? =
        Aspect.all.findSome? (p.violation? done) := by
      rw [List.findSome?_map]
      congr 1
      funext aspect
      show (c.profiles[done.length]?.bind fun p => _) = _
      rw [hplace, hearlier]
      rfl
    have hdone : ∀ id, id ∈ p.id :: seen ↔ ∃ q ∈ done ++ [p], q.id = id := by
      intro id
      rw [List.mem_cons, hseen]
      simp only [List.mem_append, List.mem_singleton]
      grind
    have hrest := ih (hc.trans (List.append_cons done p ps)) hdone
    rw [List.length_append, List.length_singleton] at hrest
    rw [validateProfiles_cons hseen, hrest, List.length_cons, List.range'_succ,
      Config.profileChecks_cons, Violation.report_findSome?_append, hchecks]

namespace Config

/-- Validation reports what the first check finds that finds anything. -/
theorem validate_eq (c : Config) : c.validate = report (c.checks.findSome? c.violation?) := by
  have hprofiles : validateProfiles [] c.profiles =
      report ((profileChecks (List.range c.profiles.length)).findSome? c.violation?) := by
    rw [List.range_eq_range']
    exact validateProfiles_eq c (List.nil_append _).symm (by simp)
  have hempty : c.profiles.isEmpty = true ↔ ¬ c.profiles ≠ [] := by
    rw [List.isEmpty_iff, not_not]
  have hchecks : c.checks = .version :: .profiles :: ([.bodyLimit, .depthLimit] ++
      profileChecks (List.range c.profiles.length)) := rfl
  have hversion : c.version ≠ 1 ↔ ¬ c.version = 1 := Iff.rfl
  rw [validate, hchecks, Violation.report_findSome?_cons, Violation.report_findSome?_cons,
    Violation.report_findSome?_append, ← hprofiles, ← validate_gateway_eq, guard_eq hversion,
    guard_eq hempty]
  rfl

end Config

/-! ### Which configurations are accepted -/

section Accepted
variable (earlier : List Profile) (p : Profile)

theorem Profile.id_accepted_iff :
    p.violation? earlier .id = none ↔ ∃ c ∈ p.id.toList, Text.isBlank c = false := by
  simp [Profile.violation?]

theorem Profile.calls_accepted_iff :
    p.violation? earlier .calls = none ↔ ∀ name ∈ p.allowCalls, name ∉ p.denyCalls := by
  simp [Profile.violation?]

theorem Profile.constants_accepted_iff :
    p.violation? earlier .constants = none ↔ ∀ name ∈ p.allowConstants, name ∉ p.denyConstants := by
  simp [Profile.violation?]

theorem Profile.distinct_accepted_iff :
    p.violation? earlier .distinct = none ↔ ∀ q ∈ earlier, q.id ≠ p.id := by
  simp [Profile.violation?]

end Accepted

theorem Profile.validate_eq_ok_iff (p : Profile) :
    p.validate = .ok () ↔ (∃ c ∈ p.id.toList, Text.isBlank c = false) ∧
      (∀ name ∈ p.allowCalls, name ∉ p.denyCalls) ∧
      ∀ name ∈ p.allowConstants, name ∉ p.denyConstants := by
  rw [p.validate_eq [], Violation.report_eq_ok_iff, List.findSome?_eq_none_iff,
    ← p.id_accepted_iff [], ← p.calls_accepted_iff [], ← p.constants_accepted_iff []]
  simp

namespace Config

theorem forall_gatewayChecks_iff (c : Config) :
    (∀ k ∈ [Check.version, .profiles, .bodyLimit, .depthLimit], c.violation? k = none) ↔
      c.version = 1 ∧ c.profiles ≠ [] ∧
        (1024 ≤ c.gateway.maxBodyBytes ∧ c.gateway.maxBodyBytes ≤ 67108864) ∧
        (1 ≤ c.gateway.maxTreeDepth ∧ c.gateway.maxTreeDepth ≤ 64) := by
  simp [violation?]

theorem forall_profileChecks_iff (c : Config) :
    (∀ k ∈ profileChecks (List.range c.profiles.length), c.violation? k = none) ↔
      ∀ (place : Nat) (p : Profile), c.profiles[place]? = some p →
        ∀ aspect, p.violation? (c.profiles.take place) aspect = none := by
  constructor
  · intro h place p hp aspect
    have hlt : place < c.profiles.length := (List.getElem?_eq_some_iff.mp hp).1
    have hmem : Check.profile place aspect ∈ profileChecks (List.range c.profiles.length) := by
      refine List.mem_flatMap.mpr ⟨place, List.mem_range.mpr hlt, List.mem_map_of_mem ?_⟩
      cases aspect <;> decide
    have hnone := h _ hmem
    rwa [violation?, hp] at hnone
  · intro h k hk
    obtain ⟨place, _, hk⟩ := List.mem_flatMap.mp hk
    obtain ⟨aspect, _, rfl⟩ := List.mem_map.mp hk
    rw [violation?]
    cases hp : c.profiles[place]? with
    | none => rfl
    | some p => exact h place p hp aspect

/-- No id stands twice if none is that of an earlier profile. -/
theorem nodup_ids_iff (ps : List Profile) :
    (ps.map Profile.id).Nodup ↔
      ∀ (place : Nat) (p : Profile), ps[place]? = some p → ∀ q ∈ ps.take place, q.id ≠ p.id := by
  rw [List.Nodup, List.pairwise_map, List.pairwise_iff_getElem]
  constructor
  · intro h place p hp q hq
    obtain ⟨hplace, rfl⟩ := List.getElem?_eq_some_iff.mp hp
    obtain ⟨i, hi, rfl⟩ := List.mem_take_iff_getElem.mp hq
    exact h i place (by omega) hplace (by omega)
  · intro h i j hi hj hij
    refine h j ps[j] (List.getElem?_eq_getElem hj) ps[i] ?_
    exact List.mem_take_iff_getElem.mpr ⟨i, by omega, rfl⟩

theorem validate_eq_ok_iff (c : Config) : c.validate = .ok () ↔ c.Valid := by
  rw [validate_eq, Violation.report_eq_ok_iff, List.findSome?_eq_none_iff, checks,
    List.forall_mem_append, forall_gatewayChecks_iff, forall_profileChecks_iff]
  constructor
  · rintro ⟨⟨hversion, hnonempty, hbody, hdepth⟩, hprofiles⟩
    have hprofile : ∀ p ∈ c.profiles, p.validate = .ok () := by
      intro p hp
      obtain ⟨place, hplace⟩ := List.mem_iff_getElem?.mp hp
      rw [p.validate_eq (c.profiles.take place), Violation.report_eq_ok_iff,
        List.findSome?_eq_none_iff]
      exact fun aspect _ => hprofiles place p hplace aspect
    have haspects (p : Profile) (hp : p ∈ c.profiles) := p.validate_eq_ok_iff.mp (hprofile p hp)
    refine ⟨hversion, hnonempty, hbody, hdepth, fun p hp => (haspects p hp).1,
      fun p hp => (haspects p hp).2.1, fun p hp => (haspects p hp).2.2, ?_⟩
    refine (nodup_ids_iff _).mpr fun place p hp => ?_
    exact (p.distinct_accepted_iff _).mp (hprofiles place p hp .distinct)
  · intro h
    refine ⟨⟨h.version, h.profiles, h.bodyLimit, h.depthLimit⟩, fun place p hp aspect => ?_⟩
    have hmem : p ∈ c.profiles := List.mem_of_getElem? hp
    cases aspect with
    | id => exact (p.id_accepted_iff _).mpr (h.id p hmem)
    | calls => exact (p.calls_accepted_iff _).mpr (h.calls p hmem)
    | constants => exact (p.constants_accepted_iff _).mpr (h.constants p hmem)
    | distinct => exact (p.distinct_accepted_iff _).mpr ((nodup_ids_iff _).mp h.distinct place p hp)

/-- **Validation accepts a configuration exactly if nothing is wrong with it, and otherwise
reports the first thing that is**: the version, the lack of profiles, the limits on bodies
and on depth, and then profile by profile a blank id, the first call on both lists, the first
constant on both lists, and an id that an earlier profile has. -/
theorem validate_reports_first_violation (c : Config) :
    (c.validate = .ok () ↔ c.Valid) ∧
    ∀ v, c.validate = .error v ↔ ∃ before check after, c.checks = before ++ check :: after ∧
      c.violation? check = some v ∧ ∀ k ∈ before, c.violation? k = none := by
  refine ⟨c.validate_eq_ok_iff, fun v => ?_⟩
  rw [validate_eq, Violation.report_eq_error_iff, List.findSome?_eq_some_iff]

example :
    validate { version := 1, profiles := [{ id := "a" },
      { id := "a", allowCalls := ["p", "puts"], denyCalls := ["puts", "p"] }, { id := " " }] } =
      .error (.callInBoth "a" "p") := by decide +kernel

end Config

end ScriptGate
