import ScriptGate.Tree.Traversal

/-! The nodes directly under a node, and the positions of a tree.

What is defined on a tree by going through its fields, contents, lists and parts
depends only on the nodes directly under it (`Fields.children`): the lemmas here
say so for the listing and for the depth, and `Node.induction` is the induction
that goes with them. A position is a way down from the root, by field names and by
places in lists (`Node.at?`); the listing of a tree has exactly the nodes that
stand at some position (`Node.mem_preorder_iff`). -/
namespace ScriptGate

/-! ### The nodes directly under a node -/

def Part.node? : Part → Option Node
  | .fragment _ => none
  | .embedded n => some n

def Content.children : {slot : Slot} → Content slot → List Node
  | _, .token _ => []
  | _, .child n => [n]
  | _, .optional n => n.toList
  | _, .list ns => ns
  | _, .parts ps => ps.filterMap Part.node?

/-- The nodes directly under the fields, in order. -/
def Fields.children : {layout : Layout} → Fields layout → List Node
  | _, .nil => []
  | _, .cons c tail => c.children ++ tail.children

def Node.children : Node → List Node
  | .known _ fs => fs.children
  | .unrecognized _ => []

/-- Fields are a list of contents; nothing is said about the nodes in them. -/
@[elab_as_elim]
theorem Fields.induction {motive : {layout : Layout} → Fields layout → Prop} (nil : motive .nil)
    (cons : ∀ {name slot rest} (c : Content slot) (tail : Fields rest), motive tail →
      motive (.cons c tail : Fields ((name, slot) :: rest))) :
    ∀ {layout} (fs : Fields layout), motive fs
  | _, .nil => nil
  | _, .cons c tail => cons c tail (Fields.induction nil cons tail)
termination_by structural _ fs => fs

theorem Part.sizeOf_of_node? {p : Part} {m : Node} (h : p.node? = some m) : sizeOf m < sizeOf p := by
  cases p with
  | fragment _ => cases h
  | embedded n =>
    obtain rfl := Option.some.inj h
    simp

theorem Content.sizeOf_of_mem {slot : Slot} (c : Content slot) {m : Node} (h : m ∈ c.children) :
    sizeOf m < sizeOf c := by
  cases c with
  | token _ => cases h
  | child n =>
    obtain rfl := List.mem_singleton.mp h
    simp
  | optional o =>
    obtain rfl := Option.mem_toList.mp h
    simp
    omega
  | list ns =>
    have : sizeOf m < sizeOf ns := List.sizeOf_lt_of_mem h
    simp
    omega
  | parts ps =>
    obtain ⟨p, hp, hm⟩ := List.mem_filterMap.mp h
    have := List.sizeOf_lt_of_mem hp
    have := Part.sizeOf_of_node? hm
    simp
    omega

theorem Fields.sizeOf_of_mem {layout : Layout} (fs : Fields layout) {m : Node}
    (h : m ∈ fs.children) : sizeOf m < sizeOf fs := by
  induction fs using Fields.induction with
  | nil => cases h
  | cons c tail ih =>
    simp only [Fields.cons.sizeOf_spec]
    rcases List.mem_append.mp h with h | h
    · have := c.sizeOf_of_mem h
      omega
    · have := ih h
      omega

/-- What holds of a node whenever it holds of the nodes directly under it holds of
every node. -/
@[elab_as_elim]
theorem Node.induction {motive : Node → Prop}
    (known : ∀ kind (fs : Fields kind.layout), (∀ m ∈ fs.children, motive m) →
      motive (.known kind fs))
    (unrecognized : ∀ tag, motive (.unrecognized tag)) : ∀ n, motive n
  | .known kind fs => known kind fs fun m hm =>
    have := fs.sizeOf_of_mem hm
    Node.induction known unrecognized m
  | .unrecognized tag => unrecognized tag
termination_by n => sizeOf n
decreasing_by simp only [Node.known.sizeOf_spec]; omega

/-! ### Listing and depth, by the nodes directly under a node -/

theorem preorderAll_eq (ns : List Node) : preorderAll ns = ns.flatMap Node.preorder := by
  induction ns with
  | nil => rfl
  | cons n ns ih => rw [preorderAll, List.flatMap_cons, ih]

theorem preorderParts_eq (ps : List Part) :
    preorderParts ps = (ps.filterMap Part.node?).flatMap Node.preorder := by
  induction ps with
  | nil => rfl
  | cons p ps ih => cases p <;> simp [preorderParts, Part.nodes, Part.node?, List.filterMap_cons, ih]

theorem Fields.nodes_eq {layout : Layout} (fs : Fields layout) :
    fs.nodes = fs.children.flatMap Node.preorder := by
  induction fs using Fields.induction with
  | nil => rfl
  | cons c tail ih =>
    rw [Fields.nodes, Fields.children, List.flatMap_append, ih]
    congr 1
    cases c with
    | optional o => cases o <;> simp [Content.nodes, Content.children]
    | list ns => exact preorderAll_eq ns
    | parts ps => exact preorderParts_eq ps
    | _ => simp [Content.nodes, Content.children]

/-- A tree is listed root first, then the trees directly under the root in turn. -/
theorem Node.preorder_known (kind : Kind) (fs : Fields kind.layout) :
    (Node.known kind fs).preorder = .known kind fs :: fs.children.flatMap Node.preorder := by
  rw [Node.preorder, fs.nodes_eq]

/-- What holds of all nodes of a tree holds of its root and of all nodes of the trees
directly under it. -/
theorem Node.forall_preorder_iff (n : Node) (P : Node → Prop) :
    (∀ m ∈ n.preorder, P m) ↔ P n ∧ ∀ c ∈ n.children, ∀ m ∈ c.preorder, P m := by
  cases n with
  | unrecognized tag => simp [Node.preorder, Node.children]
  | known kind fs =>
    rw [Node.preorder_known, List.forall_mem_cons, Node.children]
    simp only [List.mem_flatMap, forall_exists_index, and_imp]
    exact and_congr_right fun _ => ⟨fun h c hc m hm => h m c hc hm, fun h m c hc hm => h c hc m hm⟩

theorem depthAll_le_iff (ns : List Node) (d : Nat) : depthAll ns ≤ d ↔ ∀ m ∈ ns, m.depth ≤ d := by
  induction ns with
  | nil => simp [depthAll]
  | cons n ns ih => rw [depthAll, Nat.max_le, ih, List.forall_mem_cons]

theorem depthParts_le_iff (ps : List Part) (d : Nat) :
    depthParts ps ≤ d ↔ ∀ m ∈ ps.filterMap Part.node?, m.depth ≤ d := by
  induction ps with
  | nil => simp [depthParts]
  | cons p ps ih =>
    rw [depthParts, Nat.max_le, ih]
    cases p <;> simp [Part.depth, Part.node?]

theorem Fields.depth_le_iff {layout : Layout} (fs : Fields layout) (d : Nat) :
    fs.depth ≤ d ↔ ∀ m ∈ fs.children, m.depth ≤ d := by
  induction fs using Fields.induction with
  | nil => simp [Fields.depth, Fields.children]
  | cons c tail ih =>
    simp only [Fields.depth, Nat.max_le, ih, Fields.children, List.forall_mem_append]
    refine and_congr_left fun _ => ?_
    cases c with
    | optional o => cases o <;> simp [Content.depth, Content.children]
    | list ns => exact depthAll_le_iff ns d
    | parts ps => exact depthParts_le_iff ps d
    | _ => simp [Content.depth, Content.children]

theorem Node.depth_known_le_iff (kind : Kind) (fs : Fields kind.layout) (d : Nat) :
    (Node.known kind fs).depth ≤ d + 1 ↔ ∀ m ∈ fs.children, m.depth ≤ d := by
  rw [Node.depth, Nat.succ_le_succ_iff, fs.depth_le_iff]

theorem Node.depth_pos (n : Node) : 0 < n.depth := by
  cases n with
  | known kind fs => exact Nat.succ_pos _
  | unrecognized tag => exact Nat.one_pos

/-- Whatever bounds the depth of a node allows for the node itself. -/
theorem Node.exists_eq_succ_of_depth_le {n : Node} {d : Nat} (h : n.depth ≤ d) :
    ∃ r, d = r + 1 :=
  Nat.exists_eq_succ_of_ne_zero (Nat.ne_of_gt (Nat.lt_of_lt_of_le n.depth_pos h))

/-! ### Positions -/

/-- A way down a tree, level by level: the field to enter and, if it holds a list, the
place in the list. -/
abbrev Position := List (String × Option Nat)

/-- The node in a field, or at a place of the list in it. -/
def Content.item? : {slot : Slot} → Content slot → Option Nat → Option Node
  | _, .child n, none => some n
  | _, .optional n, none => n
  | _, .list ns, some i => ns[i]?
  | _, .parts ps, some i => ps[i]?.bind Part.node?
  | _, _, _ => none

def Fields.item? (field : String) (place : Option Nat) :
    {layout : Layout} → Fields layout → Option Node
  | _, .nil => none
  | (name, _) :: _, .cons c tail => if name = field then c.item? place else tail.item? field place

/-- The node that stands at a position. -/
def Node.at? : Node → Position → Option Node
  | n, [] => some n
  | .known _ fs, (field, place) :: rest => (fs.item? field place).bind (·.at? rest)
  | .unrecognized _, _ :: _ => none

theorem Content.mem_children_iff {slot : Slot} (c : Content slot) (m : Node) :
    m ∈ c.children ↔ ∃ place, c.item? place = some m := by
  cases c with
  | token _ => simp [Content.children, Content.item?]
  | child n => simp [Content.children, Content.item?, Option.exists, eq_comm]
  | optional o => simp [Content.children, Content.item?, Option.exists]
  | list ns => simp [Content.children, Content.item?, Option.exists, List.mem_iff_getElem?]
  | parts ps =>
    simp only [Content.children, List.mem_filterMap]
    constructor
    · rintro ⟨p, hp, hm⟩
      obtain ⟨i, hi⟩ := List.mem_iff_getElem?.mp hp
      exact ⟨some i, Option.bind_eq_some_iff.mpr ⟨p, hi, hm⟩⟩
    · rintro ⟨_ | i, h⟩
      · cases h
      · obtain ⟨p, hi, hm⟩ := Option.bind_eq_some_iff.mp h
        exact ⟨p, List.mem_of_getElem? hi, hm⟩

theorem Fields.field_of_item? {layout : Layout} (fs : Fields layout) {field : String}
    {place : Option Nat} {m : Node} (h : fs.item? field place = some m) : field ∈ layout.map Prod.fst := by
  induction fs using Fields.induction with
  | nil => cases h
  | @cons name _ _ c tail ih =>
    by_cases hn : name = field
    · simp [hn]
    · rw [Fields.item?, if_neg hn] at h
      exact List.mem_cons_of_mem _ (ih h)

/-- Where no name is given to two fields, each node under them can be named. -/
theorem Fields.mem_children_iff {layout : Layout} (fs : Fields layout)
    (hd : (layout.map Prod.fst).Nodup) (m : Node) :
    m ∈ fs.children ↔ ∃ field place, fs.item? field place = some m := by
  induction fs using Fields.induction with
  | nil => simp [Fields.children, Fields.item?]
  | @cons name _ _ c tail ih =>
    obtain ⟨hname, hrest⟩ := List.nodup_cons.mp hd
    rw [Fields.children, List.mem_append, ih hrest, c.mem_children_iff]
    constructor
    · rintro (⟨place, h⟩ | ⟨field, place, h⟩)
      · exact ⟨name, place, by rw [Fields.item?, if_pos rfl, h]⟩
      · have hne : name ≠ field := fun he => hname (he ▸ tail.field_of_item? h)
        exact ⟨field, place, by rw [Fields.item?, if_neg hne, h]⟩
    · rintro ⟨field, place, h⟩
      rw [Fields.item?] at h
      split at h
      · exact .inl ⟨place, h⟩
      · exact .inr ⟨field, place, h⟩

theorem Kind.layout_nodup (kind : Kind) : (kind.layout.map Prod.fst).Nodup := by
  cases kind <;> decide

/-- **The listing of a tree has the nodes that stand somewhere in it**, all of them and
no others. -/
theorem Node.mem_preorder_iff (n m : Node) : m ∈ n.preorder ↔ ∃ position, n.at? position = some m := by
  induction n using Node.induction with
  | unrecognized tag =>
    rw [Node.preorder, List.mem_singleton]
    constructor
    · rintro rfl
      exact ⟨[], rfl⟩
    · rintro ⟨_ | ⟨step, rest⟩, h⟩
      · exact (Option.some.inj h).symm
      · cases h
  | known kind fs ih =>
    rw [Node.preorder_known, List.mem_cons, List.mem_flatMap]
    constructor
    · rintro (rfl | ⟨c, hc, hm⟩)
      · exact ⟨[], rfl⟩
      · obtain ⟨field, place, hi⟩ := (fs.mem_children_iff kind.layout_nodup c).mp hc
        obtain ⟨rest, hr⟩ := (ih c hc).mp hm
        exact ⟨(field, place) :: rest, by rw [Node.at?, hi, Option.bind_some, hr]⟩
    · rintro ⟨_ | ⟨⟨field, place⟩, rest⟩, h⟩
      · exact .inl (Option.some.inj h).symm
      · rw [Node.at?] at h
        obtain ⟨c, hi, hr⟩ := Option.bind_eq_some_iff.mp h
        have hc := (fs.mem_children_iff kind.layout_nodup c).mpr ⟨field, place, hi⟩
        exact .inr ⟨c, hc, (ih c hc).mpr ⟨rest, hr⟩⟩

end ScriptGate
