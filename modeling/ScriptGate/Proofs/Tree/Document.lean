import ScriptGate.Proofs.Tree.Reading

/-! Which documents are trees.

The nodes of a document are the values reached from it through the fields that the
kinds on the way have (`Json.HasNode`), each at its level. A document can be read
exactly when every one of its nodes is an object of the right shape and none
stands below the deepest level (`Wire.exists_node_iff`): what is wrong with a
document is wrong at one of its nodes, whatever stands elsewhere. -/
namespace ScriptGate

namespace Json

/-- `w` is a node of the document `v`, at this level; the document itself is at level 1. -/
inductive HasNode : (v : Json) → (level : Nat) → (w : Json) → Prop where
  | root (v : Json) : HasNode v 1 v
  | under {v c w : Json} {level : Nat} : c ∈ v.children → HasNode c level w →
      HasNode v (level + 1) w

/-- What holds of the nodes of a document holds of the document itself and of those of the
documents directly under it. -/
theorem forall_hasNode_iff (v : Json) (P : Nat → Json → Prop) :
    (∀ level w, v.HasNode level w → P level w) ↔
      P 1 v ∧ ∀ c ∈ v.children, ∀ level w, c.HasNode level w → P (level + 1) w := by
  constructor
  · intro h
    exact ⟨h 1 v (.root v), fun c hc level w hw => h (level + 1) w (.under hc hw)⟩
  · rintro ⟨hroot, hbelow⟩ level w hw
    cases hw with
    | root => exact hroot
    | under hc hw => exact hbelow _ hc _ _ hw

end Json

/-- What was found under the name of a field may stand there, if the nodes in it may. -/
def Slot.Fits (found : Option Json) : Slot → Prop
  | .token => ∃ text, found = some (.str text)
  | .child => ∃ v, found = some v ∧ v.type ≠ .null
  | .optional => True
  | .list | .parts => ∃ items, Wire.items? found = some items

/-- The value is an object with a tag and, if the tag is a kind's, with the fields of that
kind. The nodes in the fields are not looked at. -/
def Json.WellShaped (v : Json) : Prop :=
  ∃ members tag, v = .obj members ∧ member "kind" members = some (.str tag) ∧
    ∀ kind : Kind, kind.tag = tag → ∀ field ∈ kind.layout, field.2.Fits (member field.1 members)

/-! ### Documents that can be read -/

section Exists
variable {reads : Json → Node → Prop}

theorem Content.exists_from {slot : Slot} {found : Option Json} (hfits : slot.Fits found)
    (h : ∀ v ∈ Wire.nodesIn found slot, ∃ n, reads v n) :
    ∃ c : Content slot, c.From reads found := by
  cases slot with
  | token =>
    obtain ⟨text, rfl⟩ := hfits
    exact ⟨.token text, rfl⟩
  | child =>
    obtain ⟨v, rfl, hv⟩ := hfits
    obtain ⟨n, hn⟩ := h v (List.mem_singleton_self v)
    exact ⟨.child n, v, rfl, hv, hn⟩
  | optional =>
    rcases found with _ | v
    · exact ⟨.optional none, .inl rfl⟩
    · by_cases hv : v.type = .null
      · obtain rfl : v = .null := by cases v <;> simp_all [Json.type]
        exact ⟨.optional none, .inr rfl⟩
      · obtain ⟨n, hn⟩ := h v (List.mem_filter.mpr ⟨List.mem_singleton_self v, by simpa using hv⟩)
        exact ⟨.optional (some n), v, rfl, hv, hn⟩
  | list =>
    obtain ⟨items, hi⟩ := hfits
    rw [Wire.nodesIn, hi] at h
    obtain ⟨ns, hns⟩ := List.exists_forall₂ h
    exact ⟨.list ns, items, hi, hns⟩
  | parts =>
    obtain ⟨items, hi⟩ := hfits
    rw [Wire.nodesIn, hi] at h
    have hpart : ∀ v ∈ items, ∃ p : Part, p.From reads v := by
      intro v hv
      by_cases hs : v.type = .string
      · obtain ⟨text, rfl⟩ : ∃ text, v = .str text := by cases v <;> simp_all [Json.type]
        exact ⟨.fragment text, rfl⟩
      · obtain ⟨n, hn⟩ := h v (List.mem_filter.mpr ⟨hv, by simpa using hs⟩)
        exact ⟨.embedded n, hs, hn⟩
    obtain ⟨ps, hps⟩ := List.exists_forall₂ hpart
    exact ⟨.parts ps, items, hi, hps⟩

theorem Fields.exists_from {members : List (String × Json)} {layout : Layout}
    (hfits : ∀ field ∈ layout, field.2.Fits (Json.member field.1 members))
    (h : ∀ v ∈ Wire.nodesUnder members layout, ∃ n, reads v n) :
    ∃ fs : Fields layout, fs.From reads members := by
  induction layout with
  | nil => exact ⟨.nil, trivial⟩
  | cons field rest ih =>
    obtain ⟨hhead, hrest⟩ := List.forall_mem_cons.mp hfits
    obtain ⟨hc, htail⟩ := List.forall_mem_append.mp h
    obtain ⟨c, hc⟩ := Content.exists_from hhead hc
    obtain ⟨tail, htail⟩ := ih hrest htail
    exact ⟨.cons c tail, hc, htail⟩

theorem Content.From.fits {slot : Slot} {c : Content slot} {found : Option Json}
    (h : c.From reads found) : slot.Fits found := by
  cases c with
  | token text => exact ⟨text, h⟩
  | child n =>
    obtain ⟨v, hv, hnull, _⟩ := h
    exact ⟨v, hv, hnull⟩
  | optional o => trivial
  | list ns =>
    obtain ⟨items, hi, _⟩ := h
    exact ⟨items, hi⟩
  | parts ps =>
    obtain ⟨items, hi, _⟩ := h
    exact ⟨items, hi⟩

theorem Fields.From.fits {members : List (String × Json)} {layout : Layout} {fs : Fields layout}
    (h : fs.From reads members) :
    ∀ field ∈ layout, field.2.Fits (Json.member field.1 members) := by
  induction fs using Fields.induction with
  | nil => nofun
  | cons c tail ih => exact List.forall_mem_cons.mpr ⟨h.1.fits, ih h.2⟩

theorem Node.From.wellShaped {v : Json} {n : Node} (h : n.From reads v) : v.WellShaped := by
  cases n with
  | known kind fs =>
    obtain ⟨members, rfl, htag, hfs⟩ := h
    refine ⟨members, kind.tag, rfl, htag, fun other hother => ?_⟩
    have hkind : some other = some kind := by
      rw [← Kind.ofTag?_tag other, hother, Kind.ofTag?_tag]
    obtain rfl := Option.some.inj hkind
    exact hfs.fits
  | unrecognized tag =>
    obtain ⟨members, rfl, htag, hk⟩ := h
    refine ⟨members, tag, rfl, htag, fun other hother => ?_⟩
    rw [← hother, Kind.ofTag?_tag] at hk
    cases hk

/-- A value stands for a node exactly when it has the shape of one and the values directly
under it stand for nodes. -/
theorem Node.exists_from_iff (v : Json) :
    (∃ n : Node, n.From reads v) ↔ v.WellShaped ∧ ∀ c ∈ v.children, ∃ n, reads c n := by
  constructor
  · rintro ⟨n, h⟩
    refine ⟨h.wellShaped, fun c hc => ?_⟩
    obtain ⟨i, hi⟩ := List.mem_iff_getElem?.mp hc
    obtain ⟨m, _, hm⟩ := h.forall₂_children.flip.getElem? hi
    exact ⟨m, hm⟩
  · rintro ⟨⟨members, tag, rfl, htag, hfits⟩, hchildren⟩
    cases hk : Kind.ofTag? tag with
    | none => exact ⟨.unrecognized tag, members, rfl, htag, hk⟩
    | some kind =>
      have hkind := Kind.tag_of_ofTag? hk
      rw [Json.children, Json.tag?, htag, Option.bind_some, hk] at hchildren
      obtain ⟨fs, hfs⟩ := Fields.exists_from (hfits kind hkind) hchildren
      exact ⟨.known kind fs, members, rfl, hkind ▸ htag, hfs⟩

end Exists

/-- **A document can be read exactly when all its nodes are well shaped and stand high
enough.** -/
theorem Wire.exists_node_iff (limit remaining : Nat) (v : Json) :
    (∃ n, Wire.node limit remaining v = .ok n) ↔
      ∀ level w, v.HasNode level w → level ≤ remaining ∧ w.WellShaped := by
  induction remaining generalizing v with
  | zero =>
    constructor
    · rintro ⟨n, h⟩
      cases h
    · intro h
      exact absurd (h 1 v (.root v)).1 (by decide)
  | succ r ih =>
    rw [Json.forall_hasNode_iff]
    simp only [Wire.node_succ_eq_ok_iff, Node.exists_from_iff, ih, Nat.add_le_add_iff_right,
      Nat.le_add_left, true_and]

/-! ### Nodes of a document and nodes of its tree -/

/-- What can be said of a node and of the value it was read from is true of all nodes of a
tree exactly when it is true of all nodes of the document. -/
theorem Wire.forall_hasNode_iff {P : Json → Prop} {Q : Node → Prop}
    (hPQ : ∀ (reads : Json → Node → Prop) v n, Node.From reads v n → (P v ↔ Q n))
    {limit remaining : Nat} {v : Json} {n : Node} (h : Wire.node limit remaining v = .ok n) :
    (∀ level w, v.HasNode level w → P w) ↔ ∀ m ∈ n.preorder, Q m := by
  induction remaining generalizing v n with
  | zero => cases h
  | succ r ih =>
    have hfrom := (Wire.node_succ_eq_ok_iff limit r v n).mp h
    rw [Json.forall_hasNode_iff v fun _ w => P w, Node.forall_preorder_iff, hPQ _ v n hfrom]
    refine and_congr_right fun _ => ?_
    exact hfrom.forall₂_children.forall_mem_iff fun _ _ hread => ih hread

end ScriptGate
