import Mathlib.Data.List.Perm.Subperm
import ScriptGate.Proofs.Gateway.Outcome

/-! Requests cannot make the registry grow without bound.

A caller chooses the id, the tags and the names of a request, and none of them becomes a
label: the label sets that requests can give rise to are fixed by the configuration
(`Config.labelSets`), and each stands in the registry once at most
(`Gateway.series_subset`). -/
namespace ScriptGate

open Metrics (Duration LabelSet Metric Registry Trace)

namespace Config

/-- A label set for each profile and each of the values of one more label. -/
def pairs (c : Config) (name : String) (values : List String) : List LabelSet :=
  c.profiles.flatMap fun p => values.map fun value => .ofList [("profile", p.id), (name, value)]

/-- All the label sets that requests can give rise to, family by family. -/
def labelSets (c : Config) : Metric → List LabelSet
  | .checks => c.pairs "verdict" ["allowed", "rejected"]
  | .rejections => c.pairs "kind" refusedKinds
  | .requestErrors => .ofList [("profile", "-"), ("code", "UNKNOWN_PROFILE")] ::
      c.pairs "code" ["MALFORMED_TREE", "TREE_TOO_DEEP", "PAYLOAD_TOO_LARGE"]
  | .checkDuration => c.profiles.map fun p => .ofList [("profile", p.id)]

theorem mem_pairs {c : Config} {p : Profile} (hp : p ∈ c.profiles) (name : String)
    {values : List String} {value : String} (hv : value ∈ values) :
    .ofList [("profile", p.id), (name, value)] ∈ c.pairs name values :=
  List.mem_flatMap.mpr ⟨p, hp, List.mem_map_of_mem hv⟩

theorem length_pairs (c : Config) (name : String) (values : List String) :
    (c.pairs name values).length = c.profiles.length * values.length := by
  simp only [pairs, List.length_flatMap, List.length_map, List.map_const', List.sum_replicate_nat]

/-- Twenty-two for each profile, and one. -/
theorem length_labelSets (c : Config) :
    (c.labelSets .checks).length + (c.labelSets .rejections).length +
      (c.labelSets .requestErrors).length + (c.labelSets .checkDuration).length =
    22 * c.profiles.length + 1 := by
  simp only [labelSets, refusedKinds, length_pairs, List.length_cons, List.length_map,
    List.length_nil]
  omega

end Config

theorem text_mem_of_mem_documentCodes {code : ErrorCode} (h : code ∈ documentCodes) :
    code.text ∈ ["MALFORMED_TREE", "TREE_TOO_DEEP", "PAYLOAD_TOO_LARGE"] := by
  have hmap : documentCodes.map ErrorCode.text =
      ["MALFORMED_TREE", "TREE_TOO_DEEP", "PAYLOAD_TOO_LARGE"] := rfl
  rw [← hmap]
  exact List.mem_map_of_mem h

namespace Gateway

section OneRequest
variable {g : Gateway} {id : String} {elapsed : Duration} {outcome : Except Error Evaluation}
  {ts : List Trace}

/-- The traces of a request belong to the label sets of the configuration. -/
theorem Leaves.mem_labelSets {c : Config} (hg : ofConfig c = .ok g)
    (h : Leaves g id elapsed outcome ts) :
    ∀ t ∈ ts, LabelSet.ofList t.labels ∈ c.labelSets t.metric := by
  have hprofile (hgate : (g.gate? id).isSome = true) : ∃ p ∈ c.profiles, p.id = id :=
    (c.isSome_profile_iff id).mp ((isSome_gate?_iff hg id).mp hgate)
  cases h with
  | unknown => exact List.forall_mem_singleton.mpr List.mem_cons_self
  | failed e hgate hcode =>
    obtain ⟨p, hp, rfl⟩ := hprofile hgate
    refine List.forall_mem_singleton.mpr (List.mem_cons_of_mem _ ?_)
    exact Config.mem_pairs hp "code" (text_mem_of_mem_documentCodes hcode)
  | allowed n hgate =>
    obtain ⟨p, hp, rfl⟩ := hprofile hgate
    have hverdict : "allowed" ∈ ["allowed", "rejected"] := by decide
    exact List.forall_mem_cons.mpr ⟨List.mem_map_of_mem hp,
      List.forall_mem_singleton.mpr (Config.mem_pairs hp "verdict" hverdict)⟩
  | rejected r n hgate hkind =>
    obtain ⟨p, hp, rfl⟩ := hprofile hgate
    have hverdict : "rejected" ∈ ["allowed", "rejected"] := by decide
    exact List.forall_mem_cons.mpr ⟨List.mem_map_of_mem hp,
      List.forall_mem_cons.mpr ⟨Config.mem_pairs hp "verdict" hverdict,
        List.forall_mem_singleton.mpr (Config.mem_pairs hp "kind" hkind)⟩⟩

theorem Leaves.code_mem (h : Leaves g id elapsed outcome ts) {e : Error}
    (he : outcome = .error e) : e.code ∈ .unknownProfile :: documentCodes := by
  cases h with
  | unknown =>
    obtain rfl := Except.error.inj he
    exact List.mem_cons_self
  | failed e' _ hcode =>
    obtain rfl := Except.error.inj he
    exact List.mem_cons_of_mem _ hcode
  | allowed | rejected => cases he

end OneRequest

/-- A check fails as its judgement does. -/
theorem judge_eq_error_of_check {g : Gateway} {elapsed : Duration} {id : String}
    {body : ByteArray} {e : Error} (h : (g.check elapsed id body).1 = .error e) :
    g.judge id body = .error e := by
  have hmap : (g.judge id body).map CheckResponse.ofEvaluation = .error e := h
  cases hj : g.judge id body with
  | error e' =>
    rw [hj] at hmap
    exact congrArg Except.error (Except.error.inj hmap)
  | ok evaluation =>
    rw [hj] at hmap
    cases hmap

/-! ### Any calls -/

section Calls
variable {c : Config} {g : Gateway} (hg : ofConfig c = .ok g) (calls : List Call) (m : Metric)
include hg

theorem series_ofConfig : g.registry.series m = [] := by
  obtain ⟨_, hempty, _⟩ := ofConfig_eq_ok hg
  rw [hempty]
  cases m <;> rfl

theorem series_after_calls_subset :
    (g.after (calls.map .check)).registry.series m ⊆ c.labelSets m := by
  intro key hkey
  rw [registry_after_calls, Registry.mem_series_foldl_record, series_ofConfig hg] at hkey
  obtain ⟨t, ht, hseries⟩ := List.mem_map.mp (hkey.resolve_right List.not_mem_nil)
  obtain ⟨call, _, ht⟩ := List.mem_flatMap.mp ht
  have hmem := (g.judge_leaves call.profileId call.body call.elapsed).mem_labelSets hg t ht
  obtain ⟨rfl, rfl⟩ := Prod.mk.inj hseries
  exact hmem

/-- No label set stands twice, so there are no more of them than the configuration has. -/
theorem length_series_after_calls_le :
    ((g.after (calls.map .check)).registry.series m).length ≤ (c.labelSets m).length := by
  have hnodup : ((g.after (calls.map .check)).registry.series m).Nodup := by
    rw [registry_after_calls]
    apply Registry.nodup_series_foldl_record
    rw [series_ofConfig hg]
    exact List.nodup_nil
  exact (hnodup.subperm (series_after_calls_subset hg calls m)).length_le

end Calls

/-- **No requests make series other than those the configuration fixes.** In each family the
label sets are among `Config.labelSets`, each once at most, so there are never more than
twenty-two for each profile and one more. And no request fails with a code that is about
anything but its own profile and document. -/
theorem series_subset {c : Config} {g : Gateway} (hg : ofConfig c = .ok g) (calls : List Call) :
    let state := g.after (calls.map .check)
    (∀ m, state.registry.series m ⊆ c.labelSets m) ∧
    (state.registry.series .checks).length + (state.registry.series .rejections).length +
        (state.registry.series .requestErrors).length +
        (state.registry.series .checkDuration).length ≤
      22 * c.profiles.length + 1 ∧
    ∀ elapsed id body e, (state.check elapsed id body).1 = .error e →
      e.code ∉ [.badRequest, .unsupportedVersion, .internal] := by
  intro state
  refine ⟨series_after_calls_subset hg calls, ?_, ?_⟩
  · have hlength (m : Metric) : (state.registry.series m).length ≤ (c.labelSets m).length :=
      length_series_after_calls_le hg calls m
    have hchecks := hlength .checks
    have hrejections := hlength .rejections
    have herrors := hlength .requestErrors
    have hdurations := hlength .checkDuration
    have htotal := c.length_labelSets
    omega
  · intro elapsed id body e he
    have hcode := (state.judge_leaves id body elapsed).code_mem (judge_eq_error_of_check he)
    have hother : ∀ code ∈ ErrorCode.unknownProfile :: documentCodes,
        code ∉ [.badRequest, .unsupportedVersion, .internal] := by decide
    exact hother e.code hcode

/-- Two profiles of one id, as no valid configuration has them. -/
def twinConfig : Config :=
  { version := 1, profiles := [{ id := "a" }, { id := "a", denyCalls := ["f"] }] }

/-- A call on an id of the caller's making, and one with a tag of the caller's making. -/
def forgedCalls : List Call :=
  [⟨"b", .empty, ⟨0, 0⟩⟩, ⟨"a", (Node.unrecognized "flip_flop").encode.render.toUTF8, ⟨0, 0⟩⟩]

theorem series_subset_forged :
    ∃ g, ofConfig twinConfig = .ok g ∧
      let state := g.after (forgedCalls.map .check)
      state.registry.series .rejections = [.ofList [("profile", "a"), ("kind", "unrecognized")]] ∧
      state.registry.series .rejections ⊆ twinConfig.labelSets .rejections ∧
      state.registry.series .requestErrors =
        [.ofList [("profile", "-"), ("code", "UNKNOWN_PROFILE")]] ∧
      state.registry.series .requestErrors ⊆ twinConfig.labelSets .requestErrors := by
  obtain ⟨g, hg⟩ : ∃ g, ofConfig twinConfig = .ok g := ⟨_, rfl⟩
  obtain ⟨hsubset, -⟩ := series_subset hg forgedCalls
  obtain rfl := Except.ok.inj hg
  exact ⟨_, rfl, by decide +kernel, hsubset .rejections, by decide +kernel,
    hsubset .requestErrors⟩

end Gateway

end ScriptGate
