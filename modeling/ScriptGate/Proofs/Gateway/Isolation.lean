import Mathlib.Data.List.Nodup
import ScriptGate.Gateway.Check
import ScriptGate.Json.Printer
import ScriptGate.Proofs.Config.Violations
import ScriptGate.Proofs.Pointwise

/-! Requests to one profile are answered as if there were no other.

A gateway keeps its gates under the ids of their profiles, a later one in place of an
earlier one of the same id, while a configuration looks a profile up as the first of its
id. A valid configuration has no id twice, so the two agree (`Gateway.gate?_of_profile`).
And whatever is asked of a gateway, its gates stay as they are (`Gateway.gates_after`), so
an answer depends on the profile and the document only (`Gateway.check_isolated`). -/
namespace ScriptGate

open Metrics (Duration)

/-! ### Ids in a valid configuration -/

namespace Config

/-- A valid configuration has no id twice. -/
theorem nodup_of_validate {c : Config} (h : c.validate = .ok ()) :
    (c.profiles.map Profile.id).Nodup :=
  (c.validate_eq_ok_iff.mp h).distinct

theorem mem_of_profile {c : Config} {id : String} {p : Profile} (h : c.profile id = some p) :
    p ∈ c.profiles ∧ p.id = id :=
  ⟨List.mem_of_find?_eq_some h, by simpa using List.find?_some h⟩

theorem isSome_profile_iff (c : Config) (id : String) :
    (c.profile id).isSome = true ↔ ∃ p ∈ c.profiles, p.id = id := by
  simp [profile, List.find?_isSome]

/-- Where no id stands twice, the profile of an id is the one that has it. -/
theorem profile_eq_some_iff {c : Config} (h : (c.profiles.map Profile.id).Nodup) (id : String)
    (p : Profile) : c.profile id = some p ↔ p ∈ c.profiles ∧ p.id = id := by
  refine ⟨mem_of_profile, ?_⟩
  rintro ⟨hp, hid⟩
  obtain ⟨q, hq⟩ := Option.isSome_iff_exists.mp ((c.isSome_profile_iff id).mpr ⟨p, hp, hid⟩)
  obtain ⟨hmem, hqid⟩ := mem_of_profile hq
  rw [hq, List.inj_on_of_nodup_map h hmem hp (hqid.trans hid.symm)]

/-- Two valid configurations that have the same profiles of an id look up the same one. -/
theorem profile_congr {c c' : Config} (hv : c.validate = .ok ())
    (hv' : c'.validate = .ok ()) {id : String}
    (h : ∀ p, p.id = id → (p ∈ c'.profiles ↔ p ∈ c.profiles)) : c'.profile id = c.profile id := by
  apply Option.ext
  intro p
  rw [profile_eq_some_iff (nodup_of_validate hv'),
    profile_eq_some_iff (nodup_of_validate hv)]
  exact and_congr_left (h p)

end Config

/-! ### The gates of a configuration -/

theorem Gate.profileId_ofProfile {maxBodyBytes maxTreeDepth : Nat} {p : Profile} {g : Gate}
    (h : ofProfile maxBodyBytes maxTreeDepth p = .ok g) : g.profileId = p.id := by
  obtain ⟨policy, _, h⟩ := Except.bind_eq_ok_iff.mp h
  obtain rfl := Except.ok.inj h
  rfl

namespace Gateway

section Compile
variable {settings : Settings} {gates out : Table Gate} {p : Profile} {ps : List Profile}

theorem compile_cons_eq_ok (h : compile settings gates (p :: ps) = .ok out) :
    ∃ g, Gate.ofProfile settings.maxBodyBytes settings.maxTreeDepth p = .ok g ∧
      compile settings (gates.put p.id g) ps = .ok out := by
  unfold compile at h
  split at h
  · cases h
  · next g hg => exact ⟨g, hg, Gate.profileId_ofProfile hg ▸ h⟩

theorem get?_compile_of_ne (h : compile settings gates ps = .ok out) {id : String}
    (hid : ∀ p ∈ ps, p.id ≠ id) : out.get? id = gates.get? id := by
  induction ps generalizing gates with
  | nil =>
    obtain rfl := Except.ok.inj h
    rfl
  | cons p ps ih =>
    obtain ⟨g, _, h⟩ := compile_cons_eq_ok h
    obtain ⟨hp, hps⟩ := List.forall_mem_cons.mp hid
    rw [ih h hps, Table.get?_put, if_neg (Ne.symm hp)]

/-- An id has a gate if a profile has the id, be it not the only one. -/
theorem isSome_get?_compile (h : compile settings gates ps = .ok out) {id : String}
    (hid : ∃ p ∈ ps, p.id = id) : (out.get? id).isSome = true := by
  induction ps generalizing gates with
  | nil =>
    obtain ⟨_, hp, _⟩ := hid
    cases hp
  | cons p ps ih =>
    obtain ⟨g, _, h⟩ := compile_cons_eq_ok h
    by_cases hlater : ∃ q ∈ ps, q.id = id
    · exact ih h hlater
    · have hne : ∀ q ∈ ps, q.id ≠ id := fun q hq hqid => hlater ⟨q, hq, hqid⟩
      have hpid : p.id = id := by
        obtain ⟨q, hq, hqid⟩ := hid
        rcases List.mem_cons.mp hq with rfl | hq
        · exact hqid
        · exact absurd hqid (hne q hq)
      rw [get?_compile_of_ne h hne, Table.get?_put, if_pos hpid.symm]
      rfl

/-- Where no id stands twice, each profile has its own gate. -/
theorem get?_compile_of_mem (h : compile settings gates ps = .ok out)
    (hnodup : (ps.map Profile.id).Nodup) (hp : p ∈ ps) :
    ∃ g, Gate.ofProfile settings.maxBodyBytes settings.maxTreeDepth p = .ok g ∧
      out.get? p.id = some g := by
  induction ps generalizing gates with
  | nil => cases hp
  | cons q ps ih =>
    obtain ⟨g, hg, hrest⟩ := compile_cons_eq_ok h
    obtain ⟨hnew, hnodup⟩ := List.nodup_cons.mp hnodup
    rcases List.mem_cons.mp hp with rfl | hp
    · have hne : ∀ r ∈ ps, r.id ≠ p.id := fun r hr hid => hnew (List.mem_map.mpr ⟨r, hr, hid⟩)
      refine ⟨g, hg, ?_⟩
      rw [get?_compile_of_ne hrest hne, Table.get?_put, if_pos rfl]
    · exact ih hrest hnodup hp

theorem size_compile (h : compile settings gates ps = .ok out)
    (hnodup : (ps.map Profile.id).Nodup) (hnew : ∀ p ∈ ps, gates.get? p.id = none) :
    out.size = gates.size + ps.length := by
  induction ps generalizing gates with
  | nil =>
    obtain rfl := Except.ok.inj h
    rfl
  | cons p ps ih =>
    obtain ⟨g, _, h⟩ := compile_cons_eq_ok h
    obtain ⟨hp, hnodup⟩ := List.nodup_cons.mp hnodup
    obtain ⟨hfresh, hnew⟩ := List.forall_mem_cons.mp hnew
    have hnext : ∀ q ∈ ps, (gates.put p.id g).get? q.id = none := by
      intro q hq
      have hne : q.id ≠ p.id := fun hid => hp (List.mem_map.mpr ⟨q, hq, hid⟩)
      rw [Table.get?_put, if_neg hne, hnew q hq]
    rw [ih h hnodup hnext, Table.size_put_of_get?_eq_none hfresh, List.length_cons]
    omega

end Compile

theorem ofConfig_eq_ok {c : Config} {g : Gateway} (h : ofConfig c = .ok g) :
    g.config = c ∧ g.registry = {} ∧ compile c.gateway {} c.profiles = .ok g.gates := by
  obtain ⟨gates, hgates, h⟩ := Except.bind_eq_ok_iff.mp h
  obtain rfl := Except.ok.inj h
  exact ⟨rfl, rfl, hgates⟩

/-- A gateway has a gate for the ids of its profiles and for no other. -/
theorem isSome_gate?_iff {c : Config} {g : Gateway} (hg : ofConfig c = .ok g) (id : String) :
    (g.gate? id).isSome = true ↔ (c.profile id).isSome = true := by
  obtain ⟨_, _, hgates⟩ := ofConfig_eq_ok hg
  rw [c.isSome_profile_iff]
  constructor
  · intro hsome
    by_contra hnone
    have hne : ∀ p ∈ c.profiles, p.id ≠ id := fun p hp hid => hnone ⟨p, hp, hid⟩
    have hgate : g.gate? id = none := get?_compile_of_ne hgates hne
    rw [hgate] at hsome
    cases hsome
  · exact isSome_get?_compile hgates

theorem gate?_of_profile {c : Config} (hv : c.validate = .ok ()) {g : Gateway}
    (hg : ofConfig c = .ok g) {id : String} {p : Profile} (hp : c.profile id = some p) :
    ∃ gate, Gate.ofProfile c.gateway.maxBodyBytes c.gateway.maxTreeDepth p = .ok gate ∧
      g.gate? id = some gate := by
  obtain ⟨_, _, hgates⟩ := ofConfig_eq_ok hg
  obtain ⟨hmem, rfl⟩ := Config.mem_of_profile hp
  exact get?_compile_of_mem hgates (Config.nodup_of_validate hv) hmem

/-! ### Histories -/

/-- A document sent to be checked against a profile. -/
structure Call where
  profileId : String
  body : ByteArray
  /-- The time it takes to answer. -/
  elapsed : Duration

/-- What is asked of a gateway. -/
inductive Action where
  | check (call : Call)
  | metrics
  | drain

def act (g : Gateway) : Action → Gateway
  | .check call => (g.check call.elapsed call.profileId call.body).2
  | .metrics => g
  | .drain => g.setDraining

def after (g : Gateway) (history : List Action) : Gateway := history.foldl act g

theorem gates_act (g : Gateway) (a : Action) : (g.act a).gates = g.gates := by
  cases a <;> rfl

/-- Nothing that is asked of a gateway changes its gates. -/
theorem gates_after (g : Gateway) (history : List Action) : (g.after history).gates = g.gates := by
  induction history generalizing g with
  | nil => rfl
  | cons a rest ih => exact (ih (g.act a)).trans (g.gates_act a)

theorem gate?_congr {g g' : Gateway} (h : g.gates = g'.gates) (id : String) :
    g.gate? id = g'.gate? id := by
  rw [gate?, gate?, h]

theorem gate?_after (g : Gateway) (history : List Action) (id : String) :
    (g.after history).gate? id = g.gate? id :=
  gate?_congr (g.gates_after history) id

/-- An id that no profile has is unknown after any history. -/
theorem check_after_of_no_profile {c : Config} {g : Gateway} (hg : ofConfig c = .ok g)
    {id : String} (hp : c.profile id = none) (history : List Action) (elapsed : Duration)
    (body : ByteArray) :
    ((g.after history).check elapsed id body).1 = .error (.unknownProfile id) := by
  have hgate : g.gate? id = none := by
    rw [← Option.not_isSome_iff_eq_none, isSome_gate?_iff hg, hp]
    exact Bool.false_ne_true
  show ((g.after history).judge id body).map CheckResponse.ofEvaluation = _
  rw [judge, gate?_after, hgate]
  rfl

/-- The gate of a profile answers for it after any history. -/
theorem check_after_of_profile {c : Config} (hv : c.validate = .ok ()) {g : Gateway}
    (hg : ofConfig c = .ok g) {id : String} {p : Profile} (hp : c.profile id = some p)
    (history : List Action) (elapsed : Duration) (body : ByteArray) :
    ∃ gate, Gate.ofProfile c.gateway.maxBodyBytes c.gateway.maxTreeDepth p = .ok gate ∧
      ((g.after history).check elapsed id body).1 =
        (gate.check body).map CheckResponse.ofEvaluation := by
  obtain ⟨gate, hgate, hlook⟩ := gate?_of_profile hv hg hp
  refine ⟨gate, hgate, ?_⟩
  show ((g.after history).judge id body).map CheckResponse.ofEvaluation = _
  rw [judge, gate?_after, hlook]

/-- **Whatever was asked before, a request is answered from the document and from the profile
it names alone.** There is a gate exactly for the ids of profiles, and the answer is that
of the profile's own gate. So the answer is the same under any other valid configuration
with the same limits in which the id has the same profile, after any other history. The
gauge counts the profiles. -/
theorem check_isolated {c : Config} (hv : c.validate = .ok ()) {g : Gateway}
    (hg : ofConfig c = .ok g) (history : List Action) (id : String) (elapsed : Duration)
    (body : ByteArray) :
    (((g.after history).gate? id).isSome = true ↔ (c.profile id).isSome = true) ∧
    (c.profile id = none →
      ((g.after history).check elapsed id body).1 = .error (.unknownProfile id)) ∧
    (∀ p, c.profile id = some p →
      ∃ gate, Gate.ofProfile c.gateway.maxBodyBytes c.gateway.maxTreeDepth p = .ok gate ∧
        ((g.after history).check elapsed id body).1 =
          (gate.check body).map CheckResponse.ofEvaluation) ∧
    (∀ (c' : Config) (g' : Gateway) (history' : List Action) (elapsed' : Duration),
      c'.validate = .ok () → ofConfig c' = .ok g' →
      c'.gateway.maxBodyBytes = c.gateway.maxBodyBytes →
      c'.gateway.maxTreeDepth = c.gateway.maxTreeDepth →
      (∀ p, p.id = id → (p ∈ c'.profiles ↔ p ∈ c.profiles)) →
      ((g'.after history').check elapsed' id body).1 =
        ((g.after history).check elapsed id body).1) ∧
    (g.after history).gauges = [("rubyguard_profiles", c.profiles.length)] := by
  refine ⟨?_, fun hp => check_after_of_no_profile hg hp history elapsed body,
    fun p hp => check_after_of_profile hv hg hp history elapsed body, ?_, ?_⟩
  · rw [gate?_after, isSome_gate?_iff hg]
  · intro c' g' history' elapsed' hv' hg' hbytes hdepth hsame
    have hprofile := Config.profile_congr hv hv' hsame
    cases hp : c.profile id with
    | none =>
      rw [check_after_of_no_profile hg hp,
        check_after_of_no_profile hg' (hprofile.trans hp)]
    | some p =>
      obtain ⟨gate, hgate, hanswer⟩ := check_after_of_profile hv hg hp history elapsed body
      obtain ⟨gate', hgate', hanswer'⟩ :=
        check_after_of_profile hv' hg' (hprofile.trans hp) history' elapsed' body
      rw [hbytes, hdepth, hgate] at hgate'
      obtain rfl := Except.ok.inj hgate'
      rw [hanswer', hanswer]
  · obtain ⟨_, _, hgates⟩ := ofConfig_eq_ok hg
    have hnodup := Config.nodup_of_validate hv
    have hsize := size_compile hgates hnodup fun _ _ => Table.get?_empty _
    have hempty : ({} : Table Gate).size = 0 := rfl
    rw [gauges, gates_after, hsize, hempty, Nat.zero_add]

/-- A profile with another before it. -/
def laterConfig : Config :=
  { version := 1, profiles := [{ id := "lax" }, { id := "strict", denyCalls := ["f"] }] }

/-- The same profile before others: the one there was, changed, and a new one. -/
def earlierConfig : Config :=
  { version := 1
    profiles := [{ id := "strict", denyCalls := ["f"] }, { id := "lax", denyCalls := ["g"] },
      { id := "new" }] }

theorem check_isolated_reordered :
    let body := (Node.identifier "f").encode.render.toUTF8
    let history := [.check ⟨"lax", body, ⟨1, 0⟩⟩, .drain, .metrics]
    laterConfig.validate = .ok () ∧ earlierConfig.validate = .ok () ∧
    ∃ g g', ofConfig laterConfig = .ok g ∧ ofConfig earlierConfig = .ok g' ∧
      ((g'.after history).check ⟨0, 0⟩ "strict" body).1 = (g.check ⟨2, 0⟩ "strict" body).1 ∧
      ((g.check ⟨2, 0⟩ "strict" body).1.map CheckResponse.allowed).toOption = some false ∧
      (g.check ⟨2, 0⟩ "new" body).1 = .error (.unknownProfile "new") ∧
      (g'.after history).gauges = [("rubyguard_profiles", 3)] := by
  intro body history
  have hv : laterConfig.validate = .ok () := by decide +kernel
  have hv' : earlierConfig.validate = .ok () := by decide +kernel
  obtain ⟨g, hg, hrejected⟩ : ∃ g, ofConfig laterConfig = .ok g ∧
      ((g.check ⟨2, 0⟩ "strict" body).1.map CheckResponse.allowed).toOption = some false :=
    ⟨_, rfl, by decide +kernel⟩
  obtain ⟨g', hg'⟩ : ∃ g', ofConfig earlierConfig = .ok g' := ⟨_, rfl⟩
  have hsame : ∀ p : Profile, p.id = "strict" →
      (p ∈ earlierConfig.profiles ↔ p ∈ laterConfig.profiles) := by
    intro p hid
    have hother (q : Profile) (hq : q.id ≠ "strict") : p ≠ q := fun h => hq (h ▸ hid)
    simp [earlierConfig, laterConfig, hother]
  obtain ⟨-, -, -, hanswer, -⟩ := check_isolated hv hg [] "strict" ⟨2, 0⟩ body
  obtain ⟨-, hunknown, -⟩ := check_isolated hv hg [] "new" ⟨2, 0⟩ body
  obtain ⟨-, -, -, -, hgauges⟩ := check_isolated hv' hg' history "strict" ⟨0, 0⟩ body
  exact ⟨hv, hv', g, g', hg, hg', hanswer _ g' history ⟨0, 0⟩ hv' hg' rfl rfl hsame, hrejected,
    hunknown rfl, hgauges⟩

end Gateway

end ScriptGate
