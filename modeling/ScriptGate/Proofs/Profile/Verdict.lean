import Mathlib.Tactic.MkIffOfInductiveProp
import Mathlib.Tactic.Tauto
import ScriptGate.Proofs.Policy.FirstOffender
import ScriptGate.Proofs.Profile.Policy
import ScriptGate.Proofs.Tree.Document
import ScriptGate.Proofs.Tree.Nesting

/-! When a gate lets a document through, said of the document and of the profile alone.

`Profile.Permits` is the rule for one node: it reads the tag and the texts of the
node's object, and the profile's switches and lists. `Gate.check_isAllowed_iff`
says that a document is allowed exactly when it is short enough, is JSON, is a
tree, is not too deep, and every node of it is permitted. -/
namespace ScriptGate

namespace Profile

/-- Identifiers and calls of this name may be used. -/
def PermitsCall (p : Profile) (name : String) : Prop :=
  name ∉ p.denyCalls ∧
    (name ∈ p.allowCalls ∨ name ∉ Seeds.deniedCalls ∧ p.policy.strictIdentifiers = false)

/-- Constants of this name may be used. -/
def PermitsConstant (p : Profile) (name : String) : Prop :=
  name ∉ p.denyConstants ∧
    (name ∈ p.allowConstants ∨ name ∉ Seeds.deniedConstants ∧ p.policy.strictConstants = false)

/-- A node with this tag, and with these texts in its fields, may be used. -/
@[mk_iff]
structure Permits (p : Profile) (tag : String) (text? : String → Option String) : Prop where
  known : tag ∈ Kind.tags
  notForbidden : tag ∉ ["alias", "class_variable", "class_variable_assignment",
    "global_variable", "global_variable_assignment", "executable_string"]
  whileLoop : tag ∈ ["while", "while_mod"] → p.policy.permitWhileLoops = true
  untilLoop : tag ∈ ["until", "until_mod"] → p.policy.permitUntilLoops = true
  definedTest : tag = "defined" → p.policy.permitDefined = true
  keyword : tag = "keyword" →
    ∃ name, text? "token" = some name ∧ name ∈ ["false", "nil", "self", "true"]
  identifier : tag = "identifier" → ∃ name, text? "token" = some name ∧ p.PermitsCall name
  call : tag = "call" → ∃ name, text? "identifier" = some name ∧ p.PermitsCall name
  constant : tag = "constant" → ∃ name, text? "token" = some name ∧ p.PermitsConstant name

end Profile

/-- The text in a field of an object. -/
def Json.text? (v : Json) (field : String) : Option String :=
  match v with
  | .obj members =>
    match member field members with
    | some (.str text) => some text
    | _ => none
  | _ => none

/-- A value that stands for a node may be used. -/
def Profile.PermitsNode (p : Profile) (v : Json) : Prop :=
  ∃ tag, v.tag? = some tag ∧ p.Permits tag v.text?

/-! ### The rule for one node -/

section Rule
variable {reads : Json → Node → Prop}

/-- The name a rule reads is the text in the first field that holds one. -/
theorem Fields.From.member_name {layout : Layout} {fs : Fields layout}
    {members : List (String × Json)} (h : fs.From reads members) {field : String}
    (hf : layout.find? (fun f => f.2 == .token) = some (field, .token)) :
    Json.member field members = some (.str fs.name) := by
  induction fs using Fields.induction with
  | nil => cases hf
  | cons c tail ih =>
    cases c with
    | token text =>
      obtain rfl := congrArg Prod.fst (Option.some.inj hf)
      exact h.1
    | _ => exact ih h.2 hf

variable {p : Profile} {policy : Policy}

theorem Profile.permitsCall_iff (hv : p.validate = .ok ()) (hp : Gate.policyOf p = .ok policy)
    (name : String) : p.PermitsCall name ↔ policy.identifierAllowed name = true := by
  have hdisjoint := Profile.not_mem_denied hv .call name
  rw [Gate.identifierAllowed_iff hp, Profile.PermitsCall]
  tauto

theorem Profile.permitsConstant_iff (hv : p.validate = .ok ()) (hp : Gate.policyOf p = .ok policy)
    (name : String) : p.PermitsConstant name ↔ policy.constantAllowed name = true := by
  have hdisjoint := Profile.not_mem_denied hv .constant name
  rw [Gate.constantAllowed_iff hp, Profile.PermitsConstant]
  tauto

theorem Node.From.text?_name {v : Json} {kind : Kind} {fs : Fields kind.layout}
    (h : (Node.known kind fs).From reads v) (field : String)
    (hf : kind.layout.find? (fun f => f.2 == .token) = some (field, .token)) :
    v.text? field = some fs.name := by
  obtain ⟨members, rfl, _, hfs⟩ := h
  rw [Json.text?, hfs.member_name hf]

/-- The policy of a profile has nothing against a node exactly when the profile permits the
value that the node was read from. -/
theorem Profile.permitsNode_iff (hv : p.validate = .ok ()) (hp : Gate.policyOf p = .ok policy)
    {v : Json} {n : Node} (hn : n.From reads v) :
    p.PermitsNode v ↔ policy.refuse n = none := by
  have htag : p.PermitsNode v ↔ p.Permits n.tag v.text? := by
    simp only [Profile.PermitsNode, hn.tag?, Option.some.injEq, exists_eq_left']
  rw [htag]
  cases n with
  | unrecognized tag =>
    obtain ⟨_, _, _, hk⟩ := hn
    refine iff_of_false (fun h => ?_) nofun
    exact (Kind.ofTag?_eq_none_iff tag).mp hk h.known
  | known kind fs =>
    have hoptions := Gate.options_policyOf hp
    have hwhile : p.policy.permitWhileLoops = policy.permitWhileLoops := by rw [← hoptions]; rfl
    have huntil : p.policy.permitUntilLoops = policy.permitUntilLoops := by rw [← hoptions]; rfl
    have hdefined : p.policy.permitDefined = policy.permitDefined := by rw [← hoptions]; rfl
    rw [Policy.refuse, Option.map_eq_none_iff, Node.tag, Profile.permits_iff, hwhile, huntil,
      hdefined, eq_true kind.tag_mem_tags]
    cases kind with
    | keyword =>
      have htext := hn.text?_name "token" rfl
      have hword : policy.refusedToken .keyword fs.name = none ↔ fs.name ∈ Seeds.allowedKeywords := by
        simp [Policy.refusedToken]
      rw [hword]
      simp [Kind.tag, htext, Seeds.allowedKeywords]
    | identifier =>
      have htext := hn.text?_name "token" rfl
      simp [Policy.refusedToken, Kind.tag, htext, Profile.permitsCall_iff hv hp]
    | call =>
      have htext := hn.text?_name "identifier" rfl
      simp [Policy.refusedToken, Kind.tag, htext, Profile.permitsCall_iff hv hp]
    | constant =>
      have htext := hn.text?_name "token" rfl
      simp [Policy.refusedToken, Kind.tag, htext, Profile.permitsConstant_iff hv hp]
    | _ => simp [Policy.refusedToken, Kind.tag]

end Rule

/-! ### The verdict -/

namespace Policy

theorem evaluate_isAllowed_iff (p : Policy) (t : Node) :
    (p.evaluate t).isAllowed = true ↔ ∀ n ∈ t.preorder, p.refuse n = none := by
  rcases p.evaluate_cases t with ⟨hall, he⟩ | ⟨before, n, after, r, ht, _, hn, he⟩
  · rw [he]
    exact iff_of_true rfl hall
  · rw [he]
    refine iff_of_false nofun fun hall => ?_
    rw [hall n (ht ▸ List.mem_append_right before List.mem_cons_self)] at hn
    cases hn

end Policy

namespace Gate

theorem checkLength_eq_ok_iff (g : Gate) (length : Nat) :
    g.checkLength length = .ok () ↔ length ≤ g.maxBodyBytes := by
  rw [checkLength]
  split
  · exact iff_of_false nofun (by omega)
  · exact iff_of_true rfl (by omega)

theorem check_eq_ok_iff (g : Gate) (body : ByteArray) (e : Evaluation) :
    g.check body = .ok e ↔ body.size ≤ g.maxBodyBytes ∧
      ∃ tree, Node.decodeBytes g.maxTreeDepth body = .ok tree ∧ g.policy.evaluate tree = e := by
  rw [← checkLength_eq_ok_iff, check, Except.bind_eq_ok_iff]
  cases Node.decodeBytes g.maxTreeDepth body with
  | error fault => simp
  | ok tree =>
    constructor
    · rintro ⟨_, hlength, h⟩
      exact ⟨hlength, tree, rfl, Except.ok.inj h⟩
    · rintro ⟨hlength, _, ht, h⟩
      obtain rfl := Except.ok.inj ht
      exact ⟨(), hlength, congrArg Except.ok h⟩

/-- **A document is allowed exactly when it is short enough, is JSON and a tree, is not too
deep, and every node of it is permitted by the profile.** -/
theorem check_isAllowed_iff {p : Profile} (hv : p.validate = .ok ())
    {maxBodyBytes maxTreeDepth : Nat} {g : Gate}
    (hg : ofProfile maxBodyBytes maxTreeDepth p = .ok g) (body : ByteArray) :
    (∃ e, g.check body = .ok e ∧ e.isAllowed = true) ↔
      body.size ≤ maxBodyBytes ∧ ∃ v, Json.ofBytes? body = some v ∧
        (∀ level w, v.HasNode level w → level ≤ maxTreeDepth ∧ w.WellShaped) ∧
        ∀ level w, v.HasNode level w → p.PermitsNode w := by
  obtain ⟨rfl, rfl, hp⟩ := ofProfile_eq_ok hg
  -- One step from the whole document to its tree: the tree exists because the document is
  -- well shaped, and its nodes are unobjectionable because those of the document are.
  have htree (v : Json) :
      (∃ tree, Node.decode g.maxTreeDepth v = .ok tree ∧
        (g.policy.evaluate tree).isAllowed = true) ↔
      (∀ level w, v.HasNode level w → level ≤ g.maxTreeDepth ∧ w.WellShaped) ∧
        ∀ level w, v.HasNode level w → p.PermitsNode w := by
    rw [← Wire.exists_node_iff g.maxTreeDepth]
    constructor
    · rintro ⟨tree, hd, hallowed⟩
      refine ⟨⟨tree, hd⟩, ?_⟩
      rw [Wire.forall_hasNode_iff (fun _ _ _ => Profile.permitsNode_iff hv hp) hd]
      exact (g.policy.evaluate_isAllowed_iff tree).mp hallowed
    · rintro ⟨⟨tree, hd⟩, hpermitted⟩
      rw [Wire.forall_hasNode_iff (fun _ _ _ => Profile.permitsNode_iff hv hp) hd] at hpermitted
      exact ⟨tree, hd, (g.policy.evaluate_isAllowed_iff tree).mpr hpermitted⟩
  simp only [check_eq_ok_iff, Node.decodeBytes_eq_ok_iff, ← htree]
  constructor
  · rintro ⟨e, ⟨hsize, tree, ⟨v, hparse, hd⟩, rfl⟩, hallowed⟩
    exact ⟨hsize, v, hparse, tree, hd, hallowed⟩
  · rintro ⟨hsize, v, hparse, tree, hd, hallowed⟩
    exact ⟨_, ⟨hsize, tree, ⟨v, hparse, hd⟩, rfl⟩, hallowed⟩

/-- A call that the seed names deny, let through by a strict profile that allows it. -/
theorem check_isAllowed_iff_eval :
    let p : Profile := { id := "a", policy := { strictIdentifiers := true }, allowCalls := ["eval"] }
    let body := (Node.program [.call none "eval" [.integer "1"]]).encode.render.toUTF8
    p.validate = .ok () ∧ ∃ g, ofProfile 1024 4 p = .ok g ∧
      (∃ e, g.check body = .ok e ∧ e.isAllowed = true) ∧
      body.size ≤ 1024 ∧ ∃ v, Json.ofBytes? body = some v ∧
        (∀ level w, v.HasNode level w → level ≤ 4 ∧ w.WellShaped) ∧
        ∀ level w, v.HasNode level w → p.PermitsNode w := by
  intro p body
  have hvalid : p.validate = .ok () := by decide +kernel
  obtain ⟨g, hg, hallowed⟩ : ∃ g, ofProfile 1024 4 p = .ok g ∧
      (g.policy.evaluate (.program [.call none "eval" [.integer "1"]])).isAllowed = true :=
    ⟨_, rfl, by rfl⟩
  obtain ⟨hbytes, hlevels, -⟩ := ofProfile_eq_ok hg
  have hsize : body.size ≤ 1024 := by decide +kernel
  have hread : Node.decodeBytes 4 body = .ok (.program [.call none "eval" [.integer "1"]]) := by
    rw [Node.decodeBytes_render]
    rfl
  have hcheck : ∃ e, g.check body = .ok e ∧ e.isAllowed = true :=
    ⟨_, (check_eq_ok_iff g body _).mpr ⟨hbytes ▸ hsize, _, hlevels ▸ hread, rfl⟩, hallowed⟩
  exact ⟨hvalid, g, hg, hcheck, (check_isAllowed_iff hvalid hg body).mp hcheck⟩

end Gate

end ScriptGate
