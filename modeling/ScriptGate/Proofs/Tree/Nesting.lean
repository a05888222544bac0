import Mathlib.Order.MinMax
import ScriptGate.Config.Validation
import ScriptGate.Proofs.Json.Printed
import ScriptGate.Proofs.Tree.RoundTrip

/-! Levels of a tree and levels of its document.

The depth of a tree counts nodes, and the reader of documents counts arrays and
objects. A node is one object, and a list it holds is an array between it and the
nodes in the list, so a tree of some depth has a document of at most twice as many
levels (`Node.nesting_encode_le`). All of them are there only where a chain of nodes
goes from list to list down to one that has a list itself, be it an empty one
(`Node.le_nesting_encode_iff`). The reader of documents takes 127 levels, one short
of twice the greatest depth that can be configured, and so the chains of that depth
are the trees within the bound that it turns away (`Node.decodeBytes_render_iff`). -/
namespace ScriptGate

/-! ### Fields that hold lists -/

/-- The field is an array in the document. -/
def Slot.isList : Slot → Bool
  | .list | .parts => true
  | .token | .child | .optional => false

/-- Some field is an array in the document. -/
def Layout.HasList (layout : Layout) : Prop := ∃ field ∈ layout, field.2.isList = true

/-- The nodes that stand in lists. -/
def Fields.listed : {layout : Layout} → Fields layout → List Node
  | _, .nil => []
  | (_, slot) :: _, .cons c tail => (if slot.isList then c.children else []) ++ tail.listed

/-- The node begins a chain of `length` nodes, in which each stands in a list of the
one before and the last has a list of its own. -/
inductive Node.ListChain : Node → Nat → Prop where
  | last {kind : Kind} (fs : Fields kind.layout) : kind.layout.HasList →
      ListChain (.known kind fs) 1
  | item {kind : Kind} {fs : Fields kind.layout} {m : Node} {length : Nat} : m ∈ fs.listed →
      ListChain m length → ListChain (.known kind fs) (length + 1)

theorem Node.listChain_known_succ_iff {kind : Kind} (fs : Fields kind.layout) (length : Nat) :
    (Node.known kind fs).ListChain (length + 1) ↔
      (kind.layout.HasList ∧ length = 0) ∨ ∃ m ∈ fs.listed, m.ListChain length := by
  constructor
  · intro h
    cases h with
    | last _ hlist => exact .inl ⟨hlist, rfl⟩
    | item hm hchain => exact .inr ⟨_, hm, hchain⟩
  · rintro (⟨hlist, rfl⟩ | ⟨m, hm, hchain⟩)
    · exact .last fs hlist
    · exact .item hm hchain

theorem Fields.mem_children_of_listed {layout : Layout} {fs : Fields layout} {m : Node}
    (h : m ∈ fs.listed) : m ∈ fs.children := by
  induction fs using Fields.induction with
  | nil => cases h
  | @cons _ slot _ c tail ih =>
    rw [Fields.listed, List.mem_append] at h
    rw [Fields.children, List.mem_append]
    refine h.imp (fun hc => ?_) ih
    cases hs : slot.isList <;> simp_all

/-! ### The levels of a document -/

theorem Json.nestingItems_le_iff (vs : List Json) (b : Nat) :
    nestingItems vs ≤ b ↔ ∀ v ∈ vs, v.nesting ≤ b := by
  induction vs with
  | nil => simp [nestingItems]
  | cons v vs ih => rw [nestingItems_cons_le_iff, ih, List.forall_mem_cons]

section Levels
variable {unknown : String → Json}

theorem Part.nesting_encode_le_iff (p : Part) (b : Nat) :
    (p.encode unknown).nesting ≤ b ↔
      ∀ m, p.node? = some m → (m.encodeWith unknown).nesting ≤ b := by
  cases p <;> simp [Part.encode, Part.node?, Json.nesting]

/-- A list adds a level of its own, and does so even if there is nothing in it. -/
theorem Content.nesting_encode_le_iff {slot : Slot} (c : Content slot) (b : Nat) :
    (c.encode unknown).nesting ≤ b ↔ slot.isList.toNat ≤ b ∧
      ∀ m ∈ c.children, (m.encodeWith unknown).nesting + slot.isList.toNat ≤ b := by
  cases c with
  | token text => simp [Content.encode, Content.children, Slot.isList, Json.nesting]
  | child n => simp [Content.encode, Content.children, Slot.isList]
  | optional o =>
    cases o <;> simp [Content.encode, Content.children, Slot.isList, Json.nesting]
  | list ns =>
    cases b with
    | zero => simp [Content.encode, Slot.isList, Json.nesting]
    | succ b =>
      simp [Content.encode, Content.children, Slot.isList, Json.nesting, encodeNodes_eq,
        Json.nestingItems_le_iff]
  | parts ps =>
    cases b with
    | zero => simp [Content.encode, Slot.isList, Json.nesting]
    | succ b =>
      have hparts : (∀ p ∈ ps, (p.encode unknown).nesting ≤ b) ↔
          ∀ m ∈ ps.filterMap Part.node?, (m.encodeWith unknown).nesting ≤ b := by
        simp only [Part.nesting_encode_le_iff, List.mem_filterMap]
        constructor
        · rintro h m ⟨p, hp, hm⟩
          exact h p hp m hm
        · intro h p hp m hm
          exact h m ⟨p, hp, hm⟩
      simpa [Content.encode, Content.children, Slot.isList, Json.nesting, encodeParts_eq,
        Json.nestingItems_le_iff] using hparts

/-- If the documents under the fields have at most `b` levels, those of the fields have
at most one more. -/
theorem Fields.nesting_members_le {layout : Layout} (fs : Fields layout) {b : Nat}
    (h : ∀ m ∈ fs.children, (m.encodeWith unknown).nesting ≤ b) :
    Json.nestingMembers (fs.members unknown) ≤ b + 1 := by
  induction fs using Fields.induction with
  | nil => exact Nat.zero_le _
  | @cons _ slot _ c tail ih =>
    obtain ⟨hc, htail⟩ := List.forall_mem_append.mp h
    have hslot := slot.isList.toNat_le
    refine Nat.max_le.mpr ⟨(c.nesting_encode_le_iff _).mpr ⟨by omega, fun m hm => ?_⟩, ih htail⟩
    have := hc m hm
    omega

/-- The one level more is there exactly where documents of `b` levels stand in a list. -/
theorem Fields.lt_nesting_members_iff {layout : Layout} (fs : Fields layout) {b : Nat}
    (h : ∀ m ∈ fs.children, (m.encodeWith unknown).nesting ≤ b) :
    b < Json.nestingMembers (fs.members unknown) ↔
      (layout.HasList ∧ b = 0) ∨ ∃ m ∈ fs.listed, b ≤ (m.encodeWith unknown).nesting := by
  induction fs using Fields.induction with
  | nil => simp [Fields.members, Json.nestingMembers, Layout.HasList, Fields.listed]
  | @cons _ slot _ c tail ih =>
    obtain ⟨hc, htail⟩ := List.forall_mem_append.mp h
    have hcontent : b < (c.encode unknown).nesting ↔ slot.isList = true ∧
        (b = 0 ∨ ∃ m ∈ c.children, b ≤ (m.encodeWith unknown).nesting) := by
      rw [← Nat.not_le, c.nesting_encode_le_iff]
      cases slot.isList with
      | false => simpa using hc
      | true => grind
    rw [Fields.members, Json.nestingMembers, lt_max_iff, hcontent, ih htail]
    cases hs : slot.isList with
    | false => simp [Layout.HasList, Fields.listed, hs]
    | true =>
      by_cases hb : b = 0 <;>
        simp [Layout.HasList, Fields.listed, hs, hb, or_and_right, exists_or]

theorem Content.countsOnly_encode {slot : Slot} (c : Content slot)
    (h : ∀ m ∈ c.children, (m.encodeWith unknown).CountsOnly) : (c.encode unknown).CountsOnly := by
  cases c with
  | token text => exact .str text
  | child n => exact h n (List.mem_singleton_self n)
  | optional o =>
    cases o with
    | none => exact .null
    | some n => exact h n (List.mem_singleton_self n)
  | list ns =>
    refine .arr ?_
    rw [encodeNodes_eq, List.forall_mem_map]
    exact h
  | parts ps =>
    refine .arr ?_
    rw [encodeParts_eq, List.forall_mem_map]
    intro p hp
    cases p with
    | fragment text => exact .str text
    | embedded n => exact h n (List.mem_filterMap.mpr ⟨_, hp, rfl⟩)

theorem Fields.countsOnly_members {layout : Layout} (fs : Fields layout)
    (h : ∀ m ∈ fs.children, (m.encodeWith unknown).CountsOnly) :
    ∀ entry ∈ fs.members unknown, entry.2.CountsOnly := by
  induction fs using Fields.induction with
  | nil => exact nofun
  | cons c tail ih =>
    obtain ⟨hc, htail⟩ := List.forall_mem_append.mp h
    exact List.forall_mem_cons.mpr ⟨c.countsOnly_encode hc, ih htail⟩

end Levels

namespace Node

theorem countsOnly_encode (n : Node) : n.encode.CountsOnly := by
  induction n using Node.induction with
  | unrecognized tag => exact .obj (List.forall_mem_singleton.mpr (.str tag))
  | known kind fs ih =>
    exact .obj (List.forall_mem_cons.mpr ⟨.str kind.tag, fs.countsOnly_members ih⟩)

theorem nesting_encode_known (kind : Kind) (fs : Fields kind.layout) :
    (Node.known kind fs).encode.nesting =
      Json.nestingMembers (fs.members fun tag => .obj [("kind", .str tag)]) + 1 := by
  simp [encode, encodeWith, Json.nesting, Json.nestingMembers]

theorem nesting_encode_unrecognized (tag : String) : (unrecognized tag).encode.nesting = 1 := rfl

/-- A node takes at most two levels of the document. -/
theorem nesting_encode_le (n : Node) {d : Nat} (h : n.depth ≤ d) : n.encode.nesting ≤ 2 * d := by
  induction n using Node.induction generalizing d with
  | unrecognized tag =>
    rw [nesting_encode_unrecognized]
    have : 1 ≤ d := h
    omega
  | known kind fs ih =>
    obtain ⟨d, rfl⟩ := exists_eq_succ_of_depth_le h
    have hunder := (depth_known_le_iff kind fs d).mp h
    have := fs.nesting_members_le fun m hm => ih m hm (hunder m hm)
    rw [nesting_encode_known]
    omega

/-- All nodes of some way down take two levels where the way is a chain of lists. -/
theorem le_nesting_encode_iff (n : Node) {d : Nat} (h : n.depth ≤ d) :
    2 * d ≤ n.encode.nesting ↔ n.ListChain d := by
  induction n using Node.induction generalizing d with
  | unrecognized tag =>
    rw [nesting_encode_unrecognized]
    have : 1 ≤ d := h
    exact ⟨fun _ => by omega, nofun⟩
  | known kind fs ih =>
    obtain ⟨d, rfl⟩ := exists_eq_succ_of_depth_le h
    have hunder := (depth_known_le_iff kind fs d).mp h
    calc 2 * (d + 1) ≤ (known kind fs).encode.nesting
      _ ↔ 2 * d < Json.nestingMembers (fs.members fun tag => .obj [("kind", .str tag)]) := by
          rw [nesting_encode_known]
          omega
      _ ↔ (kind.layout.HasList ∧ 2 * d = 0) ∨ ∃ m ∈ fs.listed, 2 * d ≤ m.encode.nesting :=
          fs.lt_nesting_members_iff fun m hm => nesting_encode_le m (hunder m hm)
      _ ↔ (kind.layout.HasList ∧ d = 0) ∨ ∃ m ∈ fs.listed, m.ListChain d := by
          refine or_congr (and_congr_right fun _ => by omega) (exists_congr fun m => ?_)
          refine and_congr_right fun hm => ?_
          have hchild := Fields.mem_children_of_listed hm
          exact ih m hchild (hunder m hchild)
      _ ↔ (known kind fs).ListChain (d + 1) := (listChain_known_succ_iff fs d).symm

theorem ListChain.length_le_depth {n : Node} {length : Nat} (h : n.ListChain length) :
    length ≤ n.depth := by
  induction h with
  | last fs _ => exact depth_pos _
  | @item kind fs m length hm _ ih =>
    have hunder := (depth_known_le_iff kind fs fs.depth).mp (Nat.le_refl _)
    have := hunder m (Fields.mem_children_of_listed hm)
    show length + 1 ≤ fs.depth + 1
    omega

/-! ### Lists in lists -/

/-- The node as the only item of a list, which is the only item of a list, and so on. -/
def nestedArgs (n : Node) : Nat → Node
  | 0 => n
  | levels + 1 => args [n.nestedArgs levels]

theorem depth_nestedArgs (n : Node) (levels : Nat) :
    (n.nestedArgs levels).depth = n.depth + levels := by
  induction levels with
  | zero => rfl
  | succ levels ih =>
    simp only [nestedArgs, args, depth, Fields.depth, Content.depth, depthAll, ih]
    omega

theorem wellTagged_nestedArgs {n : Node} (h : n.WellTagged) (levels : Nat) :
    (n.nestedArgs levels).WellTagged := by
  induction levels with
  | zero => exact h
  | succ levels ih =>
    refine (wellTagged_known .args _).mpr fun m hm => ?_
    obtain rfl : m = n.nestedArgs levels := by simpa [Fields.children, Content.children] using hm
    exact ih

theorem listChain_nestedArgs_iff (n : Node) (levels length : Nat) :
    (n.nestedArgs levels).ListChain (length + 1 + levels) ↔ n.ListChain (length + 1) := by
  induction levels with
  | zero => rfl
  | succ levels ih =>
    rw [← ih]
    refine (listChain_known_succ_iff _ (length + 1 + levels)).trans ?_
    simp [Fields.listed, Content.children, Slot.isList]

/-! ### Reading the text of a tree -/

theorem decodeBytes_render (maxDepth : Nat) (n : Node) :
    decodeBytes maxDepth n.encode.render.toUTF8 =
      if n.encode.nesting ≤ Json.maxNesting then decode maxDepth n.encode
      else .error .invalidJson := by
  rw [decodeBytes, Json.ofBytes?_render n.countsOnly_encode]
  by_cases h : n.encode.nesting ≤ Json.maxNesting <;> simp [h]

theorem nesting_encode_le_maxNesting_iff {n : Node} (h : n.depth ≤ 64) :
    n.encode.nesting ≤ Json.maxNesting ↔ ¬ n.ListChain 64 := by
  rw [← n.le_nesting_encode_iff h, Nat.not_le]
  exact Nat.lt_succ_iff.symm

end Node

theorem Settings.maxTreeDepth_le {s : Settings} (h : s.validate = .ok ()) : s.maxTreeDepth ≤ 64 := by
  simp only [Settings.validate] at h
  split at h
  · cases h
  · split at h
    · cases h
    · simp_all

namespace Node

/-- **Under settings that are valid, the text of a tree within the configured depth is
read back, unless the tree begins a chain of 64 lists.** Then the tree has exactly the
greatest depth that can be configured, and its text is refused as no document at all. -/
theorem decodeBytes_render_iff {s : Settings} (hs : s.validate = .ok ()) {t : Node}
    (ht : t.WellTagged) (hd : t.depth ≤ s.maxTreeDepth) :
    (decodeBytes s.maxTreeDepth t.encode.render.toUTF8 = .ok t ↔ ¬ t.ListChain 64) ∧
      (t.ListChain 64 → t.depth = 64 ∧
        decodeBytes s.maxTreeDepth t.encode.render.toUTF8 = .error .invalidJson) := by
  have hdepth : t.depth ≤ 64 := Nat.le_trans hd (Settings.maxTreeDepth_le hs)
  have hlevels := nesting_encode_le_maxNesting_iff hdepth
  have hread : decode s.maxTreeDepth t.encode = .ok t := Wire.node_encode _ _ t ht hd
  rw [decodeBytes_render, hread]
  by_cases hchain : t.ListChain 64
  · rw [if_neg (mt hlevels.mp (not_not_intro hchain))]
    have hfull : t.depth = 64 := Nat.le_antisymm hdepth hchain.length_le_depth
    exact ⟨iff_of_false nofun (not_not_intro hchain), fun _ => ⟨hfull, rfl⟩⟩
  · rw [if_pos (hlevels.mpr hchain)]
    exact ⟨iff_of_true rfl hchain, fun h => absurd h hchain⟩

/-- Nodes as many as a tree may be deep, with no list in the last. -/
theorem decodeBytes_nestedArgs :
    ({ maxTreeDepth := 64 } : Settings).validate = .ok () ∧
      ((unrecognized "").nestedArgs 63).WellTagged ∧
      ((unrecognized "").nestedArgs 63).depth = 64 ∧
      decodeBytes 64 ((unrecognized "").nestedArgs 63).encode.render.toUTF8 =
        .ok ((unrecognized "").nestedArgs 63) := by
  have hdepth : ((unrecognized "").nestedArgs 63).depth = 64 := depth_nestedArgs _ 63
  have htagged : (unrecognized "").WellTagged := (wellTagged_unrecognized "").mpr (by decide)
  have hchain : ¬ ((unrecognized "").nestedArgs 63).ListChain 64 :=
    mt (listChain_nestedArgs_iff _ 63 0).mp nofun
  refine ⟨rfl, wellTagged_nestedArgs htagged 63, hdepth, ?_⟩
  have hread := decodeBytes_render_iff (s := { maxTreeDepth := 64 }) rfl
    (wellTagged_nestedArgs htagged 63) (Nat.le_of_eq hdepth)
  exact hread.1.mpr hchain

/-- A chain of lists as deep as a tree may be, whose text is not read. -/
theorem decodeBytes_nestedArgs_ne :
    ({ maxTreeDepth := 64 } : Settings).validate = .ok () ∧
      ((args []).nestedArgs 63).WellTagged ∧ ((args []).nestedArgs 63).depth ≤ 64 ∧
      decodeBytes 64 ((args []).nestedArgs 63).encode.render.toUTF8 ≠
        .ok ((args []).nestedArgs 63) := by
  have hdepth : ((args []).nestedArgs 63).depth ≤ 64 := Nat.le_of_eq (depth_nestedArgs _ 63)
  have htagged : (args []).WellTagged := (wellTagged_known .args _).mpr nofun
  have hchain : ((args []).nestedArgs 63).ListChain 64 :=
    (listChain_nestedArgs_iff _ 63 0).mpr (.last _ ⟨("elements", .list), by decide⟩)
  refine ⟨rfl, wellTagged_nestedArgs htagged 63, hdepth, ?_⟩
  have hdeep := mt (nesting_encode_le_maxNesting_iff hdepth).mp (not_not_intro hchain)
  rw [decodeBytes_render, if_neg hdeep]
  exact nofun

end Node

end ScriptGate
