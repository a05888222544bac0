import ScriptGate.Proofs.Pointwise
import ScriptGate.Proofs.Tree.Position
import ScriptGate.Tree.Wire

/-! What it means that a tree is read from a document, one level at a time.

The reader takes the nodes under an object from the values it finds in the object,
and how it reads those is a parameter of each of its parts. So is the relation
`reads` here: `Content.From`, `Fields.From` and `Node.From` say which values stand
for a content, for the fields of a node and for a node if `reads` says which stand
for the nodes under them. `Wire.object_eq_ok_iff` says that the reader finds just
these, and the other lemmas say what follows for the nodes under a node and for
the one that writes documents. -/
namespace ScriptGate

/-! ### Successful readings -/

namespace Wire

/-- The items under a name, if an array or nothing stands there. -/
def items? : Option Json → Option (List Json)
  | none | some .null => some []
  | some (.arr items) => some items
  | some _ => none

theorem array_eq_ok_iff (kind : Kind) (name : String) (found : Option Json) (items : List Json) :
    array kind name found = .ok items ↔ items? found = some items := by
  rcases found with _ | v
  · simp [array, items?]
  · cases v <;> simp [array, items?]

end Wire

/-! ### What stands for a node -/

section From
variable (reads : Json → Node → Prop)

/-- The value stands for the part of a string literal. -/
def Part.From (v : Json) : Part → Prop
  | .fragment text => v = .str text
  | .embedded n => v.type ≠ .string ∧ reads v n

/-- What was found under a field's name stands for the content of the field. -/
def Content.From (found : Option Json) : {slot : Slot} → Content slot → Prop
  | _, .token text => found = some (.str text)
  | _, .child n => ∃ v, found = some v ∧ v.type ≠ .null ∧ reads v n
  | _, .optional none => found = none ∨ found = some .null
  | _, .optional (some n) => ∃ v, found = some v ∧ v.type ≠ .null ∧ reads v n
  | _, .list ns => ∃ items, Wire.items? found = some items ∧ List.Forall₂ reads items ns
  | _, .parts ps =>
    ∃ items, Wire.items? found = some items ∧ List.Forall₂ (Part.From reads) items ps

def Fields.From (members : List (String × Json)) : {layout : Layout} → Fields layout → Prop
  | _, .nil => True
  | (name, _) :: _, .cons c tail => c.From reads (Json.member name members) ∧ tail.From members

/-- The value is an object with the node's tag and, if that is a kind, with its fields. -/
def Node.From (v : Json) : Node → Prop
  | .known kind fs => ∃ members, v = .obj members ∧
      Json.member "kind" members = some (.str kind.tag) ∧ fs.From reads members
  | .unrecognized tag => ∃ members, v = .obj members ∧
      Json.member "kind" members = some (.str tag) ∧ Kind.ofTag? tag = none

end From

namespace Wire

variable (child : Json → Except TreeFault Node)

theorem part_eq_ok_iff (v : Json) (p : Part) :
    part child v = .ok p ↔ p.From (fun v n => child v = .ok n) v := by
  cases p with
  | fragment text => cases v <;> simp [part, Part.From, Except.map_eq_ok_iff]
  | embedded n => cases v <;> simp [part, Part.From, Except.map_eq_ok_iff, Json.type]

theorem content_eq_ok_iff (kind : Kind) (name : String) (found : Option Json) {slot : Slot}
    (c : Content slot) :
    content child kind name found slot = .ok c ↔ c.From (fun v n => child v = .ok n) found := by
  cases c with
  | token text =>
    rcases found with _ | v
    · simp [content, Content.From]
    · cases v <;> simp [content, Content.From]
  | child n =>
    rcases found with _ | v
    · simp [content, Content.From]
    · cases v <;> simp [content, Content.From, Except.map_eq_ok_iff, Json.type]
  | optional o =>
    rcases found with _ | v
    · cases o <;> simp [content, Content.From]
    · cases o <;> cases v <;> simp [content, Content.From, Except.map_eq_ok_iff, Json.type]
  | list ns =>
    simp [content, Content.From, Except.bind_eq_ok_iff, Except.map_eq_ok_iff, array_eq_ok_iff,
      List.mapM_eq_ok_iff]
  | parts ps =>
    simp [content, Content.From, Except.bind_eq_ok_iff, Except.map_eq_ok_iff, array_eq_ok_iff,
      List.mapM_eq_ok_iff, part_eq_ok_iff]

theorem fields_eq_ok_iff (kind : Kind) (members : List (String × Json)) {layout : Layout}
    (fs : Fields layout) :
    fields child kind members layout = .ok fs ↔
      fs.From (fun v n => child v = .ok n) members := by
  induction fs using Fields.induction with
  | nil => simp [fields, Fields.From]
  | @cons name _ _ c tail ih =>
    rw [Fields.From, ← ih, ← content_eq_ok_iff child kind name _ c]
    simp [fields, Except.bind_eq_ok_iff, Except.map_eq_ok_iff]

/-- **The reader takes a value for a node exactly when the value stands for that node.** -/
theorem object_eq_ok_iff (v : Json) (n : Node) :
    object child v = .ok n ↔ n.From (fun v n => child v = .ok n) v := by
  constructor
  · intro h
    unfold object at h
    split at h
    · next members =>
      split at h
      · next tag htag =>
        cases hk : Kind.ofTag? tag with
        | none =>
          rw [hk] at h
          obtain rfl := Except.ok.inj h
          exact ⟨members, rfl, htag, hk⟩
        | some kind =>
          rw [hk] at h
          obtain ⟨fs, hfs, rfl⟩ := Except.map_eq_ok_iff.mp h
          rw [← Kind.tag_of_ofTag? hk] at htag
          exact ⟨members, rfl, htag, (fields_eq_ok_iff child kind members fs).mp hfs⟩
      · cases h
    · cases h
  · intro h
    cases n with
    | known kind fs =>
      obtain ⟨members, rfl, htag, hfs⟩ := h
      simp only [object, htag, Kind.ofTag?_tag]
      exact Except.map_eq_ok_iff.mpr ⟨fs, (fields_eq_ok_iff child kind members fs).mpr hfs, rfl⟩
    | unrecognized tag =>
      obtain ⟨members, rfl, htag, hk⟩ := h
      simp only [object, htag, hk]

/-- The same for a value at a level, where those below are read at the next one. -/
theorem node_succ_eq_ok_iff (limit remaining : Nat) (v : Json) (n : Node) :
    node limit (remaining + 1) v = .ok n ↔
      n.From (fun v n => node limit remaining v = .ok n) v :=
  object_eq_ok_iff (node limit remaining) v n

end Wire

theorem Node.decodeBytes_eq_ok_iff (maxDepth : Nat) (body : ByteArray) (n : Node) :
    Node.decodeBytes maxDepth body = .ok n ↔
      ∃ v, Json.ofBytes? body = some v ∧ Node.decode maxDepth v = .ok n := by
  rw [Node.decodeBytes]
  cases Json.ofBytes? body <;> simp

/-! ### The values under an object

The values in a document from which nodes are read, whether they can be read or not. -/

namespace Wire

/-- The values that are to be nodes among what was found under the name of a field. -/
def nodesIn (found : Option Json) : Slot → List Json
  | .token => []
  | .child => found.toList
  | .optional => found.toList.filter fun v => v.type != .null
  | .list => (items? found).getD []
  | .parts => ((items? found).getD []).filter fun v => v.type != .string

def nodesUnder (members : List (String × Json)) (layout : Layout) : List Json :=
  layout.flatMap fun (name, slot) => nodesIn (Json.member name members) slot

end Wire

namespace Json

/-- The tag of a node. -/
def tag? : Json → Option String
  | .obj members =>
    match member "kind" members with
    | some (.str tag) => some tag
    | _ => none
  | _ => none

/-- The values directly under a node: those in the fields that its kind has. -/
def children : Json → List Json
  | .obj members =>
    match (tag? (.obj members)).bind Kind.ofTag? with
    | some kind => Wire.nodesUnder members kind.layout
    | none => []
  | _ => []

/-- What was found, or the item at a place of it if it is an array. -/
def item? : (found : Option Json) → (place : Option Nat) → Option Json
  | found, none => found
  | some (.arr items), some i => items[i]?
  | _, some _ => none

/-- The value that stands at a position. -/
def at? : Json → Position → Option Json
  | v, [] => some v
  | .obj members, (field, place) :: rest =>
    (item? (member field members) place).bind (·.at? rest)
  | _, _ :: _ => none

end Json

section Under
variable {reads : Json → Node → Prop}

theorem Wire.item?_of_items? {found : Option Json} {items : List Json} {i : Nat} {w : Json}
    (hi : items? found = some items) (hw : items[i]? = some w) :
    Json.item? found (some i) = some w := by
  rcases found with _ | v
  · obtain rfl := Option.some.inj hi
    cases hw
  · cases v with
    | arr items' =>
      obtain rfl := Option.some.inj hi
      exact hw
    | null =>
      obtain rfl := Option.some.inj hi
      cases hw
    | _ => cases hi

theorem Content.From.item? {slot : Slot} {c : Content slot} {found : Option Json}
    (h : c.From reads found) {place : Option Nat} {m : Node} (hm : c.item? place = some m) :
    ∃ w, Json.item? found place = some w ∧ reads w m := by
  cases c with
  | token text => cases hm
  | child n =>
    cases place with
    | none =>
      obtain ⟨v, rfl, _, hn⟩ := h
      obtain rfl := Option.some.inj hm
      exact ⟨v, rfl, hn⟩
    | some i => cases hm
  | optional o =>
    cases place with
    | none =>
      obtain rfl : o = some m := hm
      obtain ⟨v, rfl, _, hn⟩ := h
      exact ⟨v, rfl, hn⟩
    | some i => cases hm
  | list ns =>
    cases place with
    | none => cases hm
    | some i =>
      obtain ⟨items, hi, hns⟩ := h
      obtain ⟨w, hw, hn⟩ := hns.getElem? hm
      exact ⟨w, Wire.item?_of_items? hi hw, hn⟩
  | parts ps =>
    cases place with
    | none => cases hm
    | some i =>
      obtain ⟨items, hi, hps⟩ := h
      obtain ⟨p, hp, hnode⟩ := Option.bind_eq_some_iff.mp hm
      obtain ⟨w, hw, hread⟩ := hps.getElem? hp
      cases p with
      | fragment text => cases hnode
      | embedded n =>
        obtain rfl := Option.some.inj hnode
        exact ⟨w, Wire.item?_of_items? hi hw, hread.2⟩

theorem Fields.From.item? {layout : Layout} {fs : Fields layout} {members : List (String × Json)}
    (h : fs.From reads members) {field : String} {place : Option Nat} {m : Node}
    (hm : fs.item? field place = some m) :
    ∃ w, Json.item? (Json.member field members) place = some w ∧ reads w m := by
  induction fs using Fields.induction with
  | nil => cases hm
  | @cons name _ _ c tail ih =>
    rw [Fields.item?] at hm
    split at hm
    · next hname => exact hname ▸ h.1.item? hm
    · exact ih h.2 hm

theorem Part.forall₂_nodes {items : List Json} {ps : List Part}
    (h : List.Forall₂ (Part.From reads) items ps) :
    List.Forall₂ reads (items.filter fun v => v.type != .string) (ps.filterMap Part.node?) := by
  induction h with
  | nil => exact .nil
  | @cons v p items ps hp _ ih =>
    cases p with
    | fragment text =>
      obtain rfl : v = .str text := hp
      exact ih
    | embedded n =>
      obtain ⟨hv, hn⟩ := hp
      rw [List.filter_cons_of_pos (by simpa using hv)]
      exact .cons hn ih

theorem Content.From.forall₂_children {slot : Slot} {c : Content slot} {found : Option Json}
    (h : c.From reads found) : List.Forall₂ reads (Wire.nodesIn found slot) c.children := by
  cases c with
  | token text => exact .nil
  | child n =>
    obtain ⟨v, rfl, _, hn⟩ := h
    exact .cons hn .nil
  | optional o =>
    cases o with
    | none => rcases h with rfl | rfl <;> exact .nil
    | some n =>
      obtain ⟨v, rfl, hv, hn⟩ := h
      rw [Wire.nodesIn, Option.toList_some, List.filter_cons_of_pos (by simpa using hv)]
      exact .cons hn .nil
  | list ns =>
    obtain ⟨items, hi, hns⟩ := h
    rw [Wire.nodesIn, hi]
    exact hns
  | parts ps =>
    obtain ⟨items, hi, hps⟩ := h
    rw [Wire.nodesIn, hi]
    exact Part.forall₂_nodes hps

theorem Fields.From.forall₂_children {layout : Layout} {fs : Fields layout}
    {members : List (String × Json)} (h : fs.From reads members) :
    List.Forall₂ reads (Wire.nodesUnder members layout) fs.children := by
  induction fs using Fields.induction with
  | nil => exact .nil
  | cons c tail ih => exact List.rel_append h.1.forall₂_children (ih h.2)

theorem Node.From.tag? {v : Json} {n : Node} (h : n.From reads v) : v.tag? = some n.tag := by
  cases n with
  | known kind fs =>
    obtain ⟨members, rfl, htag, _⟩ := h
    rw [Json.tag?, htag, Node.tag]
  | unrecognized tag =>
    obtain ⟨members, rfl, htag, _⟩ := h
    rw [Json.tag?, htag, Node.tag]

/-- The nodes directly under a node are read from the values directly under its own, one
from each. -/
theorem Node.From.forall₂_children {v : Json} {n : Node} (h : n.From reads v) :
    List.Forall₂ reads v.children n.children := by
  have htag := h.tag?
  cases n with
  | known kind fs =>
    obtain ⟨members, rfl, _, hfs⟩ := h
    rw [Json.children, htag, Node.tag, Option.bind_some, Kind.ofTag?_tag]
    exact hfs.forall₂_children
  | unrecognized tag =>
    obtain ⟨members, rfl, _, hk⟩ := h
    rw [Json.children, htag, Node.tag, Option.bind_some, hk]
    exact .nil

end Under

end ScriptGate
