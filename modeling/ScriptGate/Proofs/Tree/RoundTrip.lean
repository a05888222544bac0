import ScriptGate.Proofs.Tree.Reading

/-! Writing a tree and reading it back.

A tree that is written and read is the tree it was, if the reader goes as deep as
the tree does; and whatever the reader accepts, it could have been written
(`Node.decode_roundTrip`). The one tree that cannot come back is one with a node
that goes by the tag of a kind without being of that kind: it is written like a
node of the kind, and no reader makes such a node (`Node.WellTagged`). -/
namespace ScriptGate

namespace Kind

/-- The tags of the kinds. -/
def tags : List String := all.map tag

theorem tag_mem_tags (kind : Kind) : kind.tag ∈ tags := List.mem_map_of_mem kind.mem_all

theorem ofTag?_eq_none_iff (tag : String) : ofTag? tag = none ↔ tag ∉ tags := by
  simp [ofTag?, tags, List.find?_eq_none]

theorem kind_not_field (kind : Kind) : "kind" ∉ kind.layout.map Prod.fst := by
  cases kind <;> decide

end Kind

/-- No node goes by the tag of a kind without being of that kind. -/
def Node.WellTagged (n : Node) : Prop := ∀ tag, .unrecognized tag ∈ n.preorder → tag ∉ Kind.tags

theorem Node.wellTagged_known (kind : Kind) (fs : Fields kind.layout) :
    (Node.known kind fs).WellTagged ↔ ∀ m ∈ fs.children, m.WellTagged := by
  simp only [Node.WellTagged, Node.preorder_known, List.mem_cons, reduceCtorEq, false_or,
    List.mem_flatMap]
  exact ⟨fun h m hm tag ht => h tag ⟨m, hm, ht⟩, fun h tag ⟨m, hm, ht⟩ => h m hm tag ht⟩

theorem Node.wellTagged_unrecognized (tag : String) :
    (Node.unrecognized tag).WellTagged ↔ tag ∉ Kind.tags := by
  simp [Node.WellTagged, Node.preorder]

/-! ### Members under their names -/

namespace Json

theorem member_cons_of_ne {key name : String} (h : key ≠ name) (v : Json)
    (rest : List (String × Json)) : member name ((key, v) :: rest) = member name rest := by
  rw [member]
  cases hr : member name rest <;> simp [h]

theorem member_eq_none {name : String} {members : List (String × Json)}
    (h : name ∉ members.map Prod.fst) : member name members = none := by
  induction members with
  | nil => rfl
  | cons entry rest ih =>
    rw [List.map_cons, List.mem_cons, not_or] at h
    rw [member_cons_of_ne (Ne.symm h.1), ih h.2]

theorem member_cons_self {name : String} (v : Json) {rest : List (String × Json)}
    (h : name ∉ rest.map Prod.fst) : member name ((name, v) :: rest) = some v := by
  rw [member, member_eq_none h]
  simp

end Json

/-! ### Reading what was written -/

section Written
variable {unknown : String → Json}

theorem Fields.map_fst_members {layout : Layout} (fs : Fields layout) :
    (fs.members unknown).map Prod.fst = layout.map Prod.fst := by
  induction fs using Fields.induction with
  | nil => rfl
  | cons c tail ih => simp only [Fields.members, List.map_cons, ih]

theorem encodeNodes_eq (ns : List Node) : encodeNodes unknown ns = ns.map (Node.encodeWith unknown) := by
  induction ns with
  | nil => rfl
  | cons n ns ih => rw [encodeNodes, List.map_cons, ih]

theorem encodeParts_eq (ps : List Part) : encodeParts unknown ps = ps.map (Part.encode unknown) := by
  induction ps with
  | nil => rfl
  | cons p ps ih => rw [encodeParts, List.map_cons, ih]

variable {reads : Json → Node → Prop} (hunknown : ∀ tag, (unknown tag).type = .object)
include hunknown

theorem Node.type_encodeWith (n : Node) : (n.encodeWith unknown).type = .object := by
  cases n with
  | known kind fs => rfl
  | unrecognized tag => exact hunknown tag

/-- The value written for a content stands for it, if those written for the nodes in it
stand for them. -/
theorem Content.from_encode {slot : Slot} (c : Content slot)
    (h : ∀ m ∈ c.children, reads (m.encodeWith unknown) m) :
    c.From reads (some (c.encode unknown)) := by
  have hnull (m : Node) : (m.encodeWith unknown).type ≠ .null := by
    rw [m.type_encodeWith hunknown]
    decide
  have hstring (m : Node) : (m.encodeWith unknown).type ≠ .string := by
    rw [m.type_encodeWith hunknown]
    decide
  cases c with
  | token text => rfl
  | child n => exact ⟨_, rfl, hnull n, h n (List.mem_singleton_self n)⟩
  | optional o =>
    cases o with
    | none => exact .inr rfl
    | some n => exact ⟨_, rfl, hnull n, h n (List.mem_singleton_self n)⟩
  | list ns =>
    refine ⟨_, rfl, ?_⟩
    rw [encodeNodes_eq, List.forall₂_map_left_iff, List.forall₂_same]
    exact h
  | parts ps =>
    refine ⟨_, rfl, ?_⟩
    rw [encodeParts_eq, List.forall₂_map_left_iff, List.forall₂_same]
    intro p hp
    cases p with
    | fragment text => rfl
    | embedded n => exact ⟨hstring n, h n (List.mem_filterMap.mpr ⟨_, hp, rfl⟩)⟩

/-- The same for fields, in any object that has what was written under their names. -/
theorem Fields.from_members {layout : Layout} (fs : Fields layout)
    (hd : (layout.map Prod.fst).Nodup) (h : ∀ m ∈ fs.children, reads (m.encodeWith unknown) m)
    (members : List (String × Json))
    (hm : ∀ name ∈ layout.map Prod.fst,
      Json.member name members = Json.member name (fs.members unknown)) :
    fs.From reads members := by
  induction fs using Fields.induction with
  | nil => trivial
  | @cons name _ rest c tail ih =>
    obtain ⟨hname, hrest⟩ := List.nodup_cons.mp hd
    obtain ⟨hc, htail⟩ := List.forall_mem_append.mp h
    obtain ⟨hhead, hmembers⟩ := List.forall_mem_cons.mp hm
    constructor
    · rw [hhead, Fields.members, Json.member_cons_self _ (by rwa [tail.map_fst_members])]
      exact c.from_encode hunknown hc
    · refine ih hrest htail fun other ho => ?_
      have hne : name ≠ other := fun he => hname (he ▸ ho)
      rw [hmembers other ho, Fields.members, Json.member_cons_of_ne hne]

end Written

/-- The document of a node stands for it, if those of the nodes directly under it stand
for them. -/
theorem Node.from_encode {reads : Json → Node → Prop} (n : Node) (ht : n.WellTagged)
    (h : ∀ m ∈ n.children, reads m.encode m) : n.From reads n.encode := by
  cases n with
  | known kind fs =>
    have hkind : "kind" ∉ (fs.members fun tag => .obj [("kind", .str tag)]).map Prod.fst := by
      rw [fs.map_fst_members]
      exact kind.kind_not_field
    refine ⟨_, rfl, Json.member_cons_self _ hkind, ?_⟩
    refine fs.from_members (fun _ => rfl) kind.layout_nodup h _ fun name hname => ?_
    have hne : "kind" ≠ name := fun he => kind.kind_not_field (he ▸ hname)
    exact Json.member_cons_of_ne hne _ _
  | unrecognized tag =>
    refine ⟨_, rfl, rfl, ?_⟩
    rwa [Kind.ofTag?_eq_none_iff, ← Node.wellTagged_unrecognized]

/-- A tree is read back wherever there are levels enough for it. -/
theorem Wire.node_encode (limit remaining : Nat) (n : Node) (ht : n.WellTagged)
    (hd : n.depth ≤ remaining) : Wire.node limit remaining n.encode = .ok n := by
  induction n using Node.induction generalizing remaining with
  | unrecognized tag =>
    obtain ⟨r, rfl⟩ := Node.exists_eq_succ_of_depth_le hd
    exact (Wire.node_succ_eq_ok_iff limit r _ _).mpr (Node.from_encode _ ht nofun)
  | known kind fs ih =>
    obtain ⟨r, rfl⟩ := Node.exists_eq_succ_of_depth_le hd
    rw [Wire.node_succ_eq_ok_iff]
    refine Node.from_encode _ ht fun m hm => ?_
    exact ih m hm r ((Node.wellTagged_known kind fs).mp ht m hm)
      ((Node.depth_known_le_iff kind fs r).mp hd m hm)

/-! ### What is read -/

/-- Every node of a tree that was read was read from a value. -/
theorem Node.From.exists_of_mem {reads : Json → Node → Prop} {v : Json} {n m : Node}
    (h : n.From reads v) (hm : m ∈ n.children) : ∃ w, reads w m := by
  obtain ⟨i, hi⟩ := List.mem_iff_getElem?.mp hm
  obtain ⟨w, _, hw⟩ := h.forall₂_children.getElem? hi
  exact ⟨w, hw⟩

namespace Wire

theorem node_depth {limit remaining : Nat} {v : Json} {n : Node}
    (h : node limit remaining v = .ok n) : n.depth ≤ remaining := by
  induction remaining generalizing v n with
  | zero => cases h
  | succ r ih =>
    have hfrom := (node_succ_eq_ok_iff limit r v n).mp h
    cases n with
    | unrecognized tag => exact Nat.succ_le_succ (Nat.zero_le r)
    | known kind fs =>
      refine (Node.depth_known_le_iff kind fs r).mpr fun m hm => ?_
      obtain ⟨w, hw⟩ := hfrom.exists_of_mem hm
      exact ih hw

theorem node_wellTagged {limit remaining : Nat} {v : Json} {n : Node}
    (h : node limit remaining v = .ok n) : n.WellTagged := by
  induction remaining generalizing v n with
  | zero => cases h
  | succ r ih =>
    have hfrom := (node_succ_eq_ok_iff limit r v n).mp h
    cases n with
    | unrecognized tag =>
      obtain ⟨_, _, _, hk⟩ := hfrom
      rwa [Node.wellTagged_unrecognized, ← Kind.ofTag?_eq_none_iff]
    | known kind fs =>
      refine (Node.wellTagged_known kind fs).mpr fun m hm => ?_
      obtain ⟨w, hw⟩ := hfrom.exists_of_mem hm
      exact ih hw

/-- Wherever a node stands in a tree that was read, a value with its tag stands at the same
position of the document. -/
theorem node_at? {limit remaining : Nat} {v : Json} {n : Node}
    (h : node limit remaining v = .ok n) {position : Position} {m : Node}
    (hm : n.at? position = some m) : ∃ w, v.at? position = some w ∧ w.tag? = some m.tag := by
  induction remaining generalizing v n position with
  | zero => cases h
  | succ r ih =>
    have hfrom := (node_succ_eq_ok_iff limit r v n).mp h
    match position with
    | [] =>
      obtain rfl := Option.some.inj hm
      exact ⟨v, rfl, hfrom.tag?⟩
    | (field, place) :: rest =>
      cases n with
      | unrecognized tag => cases hm
      | known kind fs =>
        obtain ⟨members, rfl, _, hfs⟩ := hfrom
        obtain ⟨c, hc, hrest⟩ := Option.bind_eq_some_iff.mp hm
        obtain ⟨w, hw, hread⟩ := hfs.item? hc
        obtain ⟨u, hu, htag⟩ := ih hread hrest
        exact ⟨u, by rw [Json.at?, hw, Option.bind_some, hu], htag⟩

end Wire

/-- **A tree comes back from its document exactly where there are levels enough for it, and
every document that is accepted gives such a tree**: one that fits, that has at each
position the tag the document has there, that takes no tag of a kind for an unknown
one, and that comes back from its own document. -/
theorem Node.decode_roundTrip :
    (∀ (n : Node) (maxDepth : Nat), n.WellTagged →
      (Node.decode maxDepth n.encode = .ok n ↔ n.depth ≤ maxDepth)) ∧
    (∀ (v : Json) (maxDepth : Nat) (n : Node), Node.decode maxDepth v = .ok n →
      n.depth ≤ maxDepth ∧
      (∀ position m, n.at? position = some m →
        ∃ w, v.at? position = some w ∧ w.tag? = some m.tag) ∧
      n.WellTagged ∧
      Node.decode maxDepth n.encode = .ok n) := by
  refine ⟨fun n maxDepth ht => ⟨Wire.node_depth, Wire.node_encode maxDepth maxDepth n ht⟩, ?_⟩
  intro v maxDepth n h
  have hd : n.depth ≤ maxDepth := Wire.node_depth h
  have ht : n.WellTagged := Wire.node_wellTagged h
  exact ⟨hd, fun _ _ => Wire.node_at? h, ht, Wire.node_encode maxDepth maxDepth n ht hd⟩

/-- Two levels come back where two are allowed and not where one is; and the document of a
call may leave out what the call does not have. -/
theorem Node.decode_roundTrip_args :
    (Node.args [.unrecognized "flip_flop"]).WellTagged ∧
    Node.decode 2 (Node.args [.unrecognized "flip_flop"]).encode =
      .ok (Node.args [.unrecognized "flip_flop"]) ∧
    Node.decode 1 (Node.args [.unrecognized "flip_flop"]).encode ≠
      .ok (Node.args [.unrecognized "flip_flop"]) ∧
    Node.decode 1 (.obj [("identifier", .str "puts"), ("kind", .str "call")]) =
      .ok (Node.call none "puts" []) ∧
    Node.decode 1 (Node.call none "puts" []).encode = .ok (Node.call none "puts" []) := by
  have ht : (Node.args [.unrecognized "flip_flop"]).WellTagged := by
    refine (Node.wellTagged_known _ _).mpr fun m hm => ?_
    obtain rfl : m = .unrecognized "flip_flop" := List.mem_singleton.mp hm
    exact (Node.wellTagged_unrecognized _).mpr (by decide)
  have hcall : Node.decode 1 (.obj [("identifier", .str "puts"), ("kind", .str "call")]) =
      .ok (Node.call none "puts" []) := rfl
  exact ⟨ht, (Node.decode_roundTrip.1 _ 2 ht).mpr (by decide),
    fun h => absurd ((Node.decode_roundTrip.1 _ 1 ht).mp h) (by decide), hcall,
    (Node.decode_roundTrip.2 _ 1 _ hcall).2.2.2⟩

end ScriptGate
