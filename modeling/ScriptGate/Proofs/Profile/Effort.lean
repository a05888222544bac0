import Mathlib.Data.List.Flatten
import Mathlib.Data.List.Perm.Subperm
import ScriptGate.Proofs.Json.Shortest
import ScriptGate.Proofs.Policy.Loosening
import ScriptGate.Proofs.Profile.Verdict
import ScriptGate.Proofs.Tree.Faults
import ScriptGate.Proofs.Tree.RoundTrip

/-! How much work a document can make: a node for every eleven bytes at most.

A node is read from an object of its own. The object is written with braces around a tag
under `kind`, and this takes eleven characters that belong to no other node, since the nodes
under it come from other members (`Json.eleven_add_children_le`). So a tree has no more nodes
than its document can pay for (`Wire.eleven_mul_preorder_le`), and the walk enters none
twice. -/
namespace ScriptGate

namespace Json

/-! ### The members that names mean -/

/-- The members that are meant by some names. -/
def meant (members : List (String × Json)) (names : List String) : List (String × Json) :=
  names.filterMap fun name => (member name members).map (name, ·)

theorem mem_of_member {name : String} {members : List (String × Json)} {v : Json}
    (h : member name members = some v) : (name, v) ∈ members := by
  induction members with
  | nil => cases h
  | cons m rest ih =>
    rw [member] at h
    split at h
    · next later hlater =>
      exact List.mem_cons_of_mem _ (ih (hlater.trans h))
    · split at h <;> cases h
      next hkey => exact hkey ▸ List.mem_cons_self

theorem meant_cons_of_none {members : List (String × Json)} {name : String} {names : List String}
    (h : member name members = none) : meant members (name :: names) = meant members names := by
  simp [meant, h]

theorem meant_cons_of_some {members : List (String × Json)} {name : String} {names : List String}
    {v : Json} (h : member name members = some v) :
    meant members (name :: names) = (name, v) :: meant members names := by
  simp [meant, h]

/-- Different names mean different members. -/
theorem meant_subperm (members : List (String × Json)) {names : List String} (h : names.Nodup) :
    (meant members names).Subperm members := by
  have hkeys (names : List String) : ((meant members names).map Prod.fst).Sublist names := by
    induction names with
    | nil => exact .slnil
    | cons name names ih =>
      cases hv : member name members with
      | none =>
        rw [meant_cons_of_none hv]
        exact ih.cons name
      | some v =>
        rw [meant_cons_of_some hv]
        exact ih.cons_cons name
  refine List.subperm_of_subset (h.sublist (hkeys names)).of_map fun m hm => ?_
  obtain ⟨name, _, hname⟩ := List.mem_filterMap.mp hm
  obtain ⟨v, hv, rfl⟩ := Option.map_eq_some_iff.mp hname
  exact mem_of_member hv

theorem length_meant_le (members : List (String × Json)) {names : List String} (h : names.Nodup) :
    (memberChars (meant members names)).length ≤ (memberChars members).length := by
  obtain ⟨ms, hperm, hsub⟩ := meant_subperm members h
  rw [memberChars_eq, memberChars_eq, ← (hperm.flatMap_right _).length_eq]
  exact (hsub.flatMap _).length_le

/-! ### The nodes under a node -/

theorem length_flatMap_le_arr (vs : List Json) :
    (vs.flatMap chars).length ≤ (chars (.arr vs)).length := by
  cases vs with
  | nil => exact Nat.zero_le _
  | cons v vs =>
    have hsub : ((v :: vs).flatMap chars).Sublist (itemChars (v :: vs)) := by
      rw [itemChars_eq]
      exact List.Sublist.flatMap_right _ fun w _ => List.sublist_cons_self ',' w.chars
    rw [length_chars_arr (List.cons_ne_nil v vs)]
    exact Nat.le_succ_of_le hsub.length_le

/-- What is taken for nodes from the value of a field is part of the value. -/
theorem length_nodesIn_le (v : Json) (slot : Slot) :
    ((Wire.nodesIn (some v) slot).flatMap chars).length ≤ v.chars.length := by
  have hone : ([v].flatMap chars).length ≤ v.chars.length := by simp
  have hitems : (((Wire.items? (some v)).getD []).flatMap chars).length ≤ v.chars.length := by
    cases v with
    | arr vs => exact length_flatMap_le_arr vs
    | _ => exact Nat.zero_le _
  cases slot with
  | token => exact Nat.zero_le _
  | child => exact hone
  | optional => exact Nat.le_trans (List.filter_sublist.flatMap chars).length_le hone
  | list => exact hitems
  | parts => exact Nat.le_trans (List.filter_sublist.flatMap chars).length_le hitems

/-- The nodes under an object are part of the members that the names of its fields mean. -/
theorem length_nodesUnder_le (members : List (String × Json)) (layout : Layout) :
    ((Wire.nodesUnder members layout).flatMap chars).length ≤
      (memberChars (meant members (layout.map Prod.fst))).length := by
  induction layout with
  | nil => exact Nat.zero_le _
  | cons field rest ih =>
    obtain ⟨name, slot⟩ := field
    have hcons : Wire.nodesUnder members ((name, slot) :: rest) =
        Wire.nodesIn (member name members) slot ++ Wire.nodesUnder members rest := rfl
    rw [hcons, List.flatMap_append, List.length_append, List.map_cons]
    cases hv : member name members with
    | none =>
      rw [meant_cons_of_none hv]
      cases slot <;> simpa [Wire.nodesIn, Wire.items?] using ih
    | some v =>
      have := length_nodesIn_le v slot
      rw [meant_cons_of_some hv, memberChars]
      simp only [List.length_cons, List.length_append]
      omega

/-- **A node takes eleven characters beside those of the nodes under it**: its braces, the
name `kind` and the quotes of its tag. -/
theorem eleven_add_children_le {v : Json} {tag : String} (h : v.tag? = some tag) :
    11 + (v.children.flatMap chars).length ≤ v.chars.length := by
  cases v with
  | obj members =>
    have hkind := (tag?_obj_eq_some_iff members tag).mp h
    obtain ⟨layout, hnames, hchildren⟩ : ∃ layout : Layout,
        ("kind" :: layout.map Prod.fst).Nodup ∧
          (Json.obj members).children = Wire.nodesUnder members layout := by
      rw [children, h, Option.bind_some]
      cases Kind.ofTag? tag with
      | none => exact ⟨[], List.nodup_singleton _, rfl⟩
      | some kind =>
        exact ⟨kind.layout, List.nodup_cons.mpr ⟨kind.kind_not_field, kind.layout_nodup⟩, rfl⟩
    have hunder := length_nodesUnder_le members layout
    have hmeant := length_meant_le members hnames
    rw [meant_cons_of_some hkind, memberChars] at hmeant
    have hquotes : (quoted "kind").length = 6 ∧ 2 ≤ (chars (.str tag)).length :=
      ⟨by decide, by simp [chars, quoted]⟩
    rw [hchildren, length_chars_obj (List.ne_nil_of_mem (mem_of_member hkind))]
    simp only [List.length_cons, List.length_append] at hmeant
    omega
  | _ => cases h

end Json

/-! ### Trees -/

theorem Node.length_preorder (n : Node) :
    n.preorder.length = 1 + (n.children.flatMap Node.preorder).length := by
  cases n with
  | known kind fs => rw [Node.preorder_known, Node.children, List.length_cons, Nat.add_comm]
  | unrecognized tag => rfl

/-- A tree has a node for every eleven characters at most. -/
theorem Wire.eleven_mul_preorder_le {limit remaining : Nat} {v : Json} {n : Node}
    (h : node limit remaining v = .ok n) : 11 * n.preorder.length ≤ v.chars.length := by
  induction remaining generalizing v n with
  | zero => cases h
  | succ remaining ih =>
    have hfrom := (node_succ_eq_ok_iff limit remaining v n).mp h
    have hsum {ws : List Json} {ms : List Node}
        (hws : List.Forall₂ (fun w m => node limit remaining w = .ok m) ws ms) :
        11 * (ms.flatMap Node.preorder).length ≤ (ws.flatMap Json.chars).length := by
      induction hws with
      | nil => exact Nat.zero_le _
      | cons hw _ ihs =>
        have := ih hw
        simp only [List.flatMap_cons, List.length_append]
        omega
    have hchildren := hsum hfrom.forall₂_children
    have hown := Json.eleven_add_children_le hfrom.tag?
    rw [n.length_preorder]
    omega

/-! ### Checks -/

namespace Gate

/-- **The work of a check is bounded by the size of the body.** The walk visits a node for
every eleven bytes at most, so the limit on bodies is a limit on visits, and the count of
them fits into any word that the size does. -/
theorem check_nodesVisited_le {g : Gate} {body : ByteArray} {e : Evaluation}
    (h : g.check body = .ok e) :
    11 * e.nodesVisited ≤ body.size ∧ e.nodesVisited ≤ g.maxBodyBytes / 11 ∧
      (body.size < UInt64.size → e.nodesVisited < UInt64.size) := by
  obtain ⟨hsize, tree, hdecode, rfl⟩ := (check_eq_ok_iff g body e).mp h
  obtain ⟨v, hv, hnode⟩ := (Node.decodeBytes_eq_ok_iff _ _ _).mp hdecode
  have hbody : 11 * (g.policy.evaluate tree).nodesVisited ≤ body.size := by
    have hvisited := g.policy.nodesVisited_le tree
    calc 11 * (g.policy.evaluate tree).nodesVisited
        ≤ 11 * tree.preorder.length := Nat.mul_le_mul_left 11 hvisited
      _ ≤ v.chars.length := Wire.eleven_mul_preorder_le hnode
      _ ≤ body.size := Json.length_chars_le_size hv
  exact ⟨hbody, by omega, fun _ => by omega⟩

/-- A list that is given twice, of which only the second is read. -/
def twiceGiven : Json :=
  .obj [("kind", .str "args"), ("elements", .arr [(Node.integer "1").encode]),
    ("elements", .arr [(Node.args [.identifier "g"]).encode, (Node.identifier "f").encode,
      (Node.integer "2").encode])]

theorem ofBytes?_twiceGiven : Json.ofBytes? twiceGiven.render.toUTF8 = some twiceGiven := by
  have hcounts : twiceGiven.CountsOnly := by
    refine .obj ?_
    simp only [List.forall_mem_cons]
    refine ⟨.str _, .arr ?_, .arr ?_, nofun⟩ <;> simp [Node.countsOnly_encode]
  rw [Json.ofBytes?_render hcounts]
  rfl

/-- The shortest node there is takes all eleven bytes of its document. The list that is given
twice has bytes to spare, and the walk over it ends at a name that is denied, with a node
still to come. -/
theorem check_nodesVisited_le_repeated :
    let g : Gate :=
      { profileId := "a", maxBodyBytes := 1024, maxTreeDepth := 3
        policy := (default : Policy).denyIdentifier "f" }
    let shortest := (Node.unrecognized "").encode.render.toUTF8
    let repeated := twiceGiven.render.toUTF8
    (∃ e, g.check shortest = .ok e ∧ 11 * e.nodesVisited = shortest.size ∧
      e.nodesVisited ≤ 1024 / 11 ∧ (shortest.size < UInt64.size → e.nodesVisited < UInt64.size)) ∧
    repeated.size = 200 ∧ ∃ e, g.check repeated = .ok e ∧ e.nodesVisited = 4 ∧
      11 * e.nodesVisited ≤ repeated.size ∧ e.nodesVisited ≤ 1024 / 11 ∧
      (repeated.size < UInt64.size → e.nodesVisited < UInt64.size) := by
  intro g shortest repeated
  have hall : 11 * 1 = shortest.size := by decide +kernel
  have hsize : repeated.size = 200 := by decide +kernel
  have hshortest : g.check shortest =
      .ok ⟨some ⟨.unrecognized "", "unrecognized node kind: "⟩, 1⟩ := by decide +kernel
  have hread : Node.decodeBytes 3 repeated =
      .ok (.args [.args [.identifier "g"], .identifier "f", .integer "2"]) :=
    (Node.decodeBytes_eq_ok_iff _ _ _).mpr ⟨_, ofBytes?_twiceGiven, rfl⟩
  have hrepeated : g.check repeated = .ok ⟨some ⟨.known .identifier, "f"⟩, 4⟩ :=
    (check_eq_ok_iff g repeated _).mpr ⟨hsize ▸ by decide, _, hread, by decide +kernel⟩
  obtain ⟨-, hshort⟩ := check_nodesVisited_le hshortest
  exact ⟨⟨_, hshortest, hall, hshort⟩, hsize, _, hrepeated, rfl, check_nodesVisited_le hrepeated⟩

end Gate

end ScriptGate
