import ScriptGate.Error
import ScriptGate.Proofs.Tree.Reading

/-! The sites of a document, and what can be wrong at them.

A document is looked at site by site (`Json.sites`): a value that is to be a node, then
each field that its kind has, in the order of the layout, and right behind a field the
sites of the nodes in it. A site holds the type of one value and where it stands, and
what is wrong at it depends on that alone (`Site.fault?`), as does what a caller is told
about it (`Site.report`). -/
namespace ScriptGate

/-- A place of a document that is looked at, and what is seen there. -/
inductive Site where
  /-- A value that is to be a node: its type, and its tag if it has one. -/
  | node (position : Position) (type : JsonType) (tag : Option String)
  /-- A field of a node of this kind: the type of the value under its name, if any. -/
  | field (position : Position) (kind : Kind) (name : String) (slot : Slot)
      (found : Option JsonType)
  deriving DecidableEq, Repr

/-- What is wrong with a field in which a value of this type was found. -/
def Slot.fault? (kind : Kind) (name : String) (found : Option JsonType) :
    Slot → Option TreeFault
  | .token =>
    match found with
    | none => some (.missing kind name)
    | some .string => none
    | some type => some (.notAString kind name type)
  | .child =>
    match found with
    | none | some .null => some (.missing kind name)
    | some _ => none
  | .optional => none
  | .list | .parts =>
    match found with
    | none | some .null | some .array => none
    | some type => some (.notAnArray kind name type)

/-- What is wrong at a site. A value stands one level below the end of its position. -/
def Site.fault? (maxDepth : Nat) : Site → Option TreeFault
  | .node position type tag =>
    if maxDepth ≤ position.length then some (.tooDeep maxDepth)
    else if type ≠ .object then some (.notAnObject type)
    else if tag = none then some .noKind
    else none
  | .field _ kind name slot found => slot.fault? kind name found

namespace Wire

/-- The items of an array, each with its place. -/
def places (items : List Json) : List (Option Nat × Json) :=
  items.zipIdx.map fun entry => (some entry.2, entry.1)

/-- The values that are to be nodes among what was found under the name of a field, each
with its place in a list if it stands in one. -/
def entries (found : Option Json) : Slot → List (Option Nat × Json)
  | .token => []
  | .child | .optional => (found.toList.filter fun v => v.type != .null).map fun v => (none, v)
  | .list => places ((items? found).getD [])
  | .parts => (places ((items? found).getD [])).filter fun entry => entry.2.type != .string

theorem mem_places {items : List Json} {entry : Option Nat × Json} (h : entry ∈ places items) :
    ∃ i, entry.1 = some i ∧ items[i]? = some entry.2 := by
  obtain ⟨⟨v, i⟩, hi, rfl⟩ := List.mem_map.mp h
  exact ⟨i, rfl, List.mem_zipIdx_iff_getElem?.mp hi⟩

/-- An entry stands where its place says. -/
theorem item?_of_mem_entries {found : Option Json} {slot : Slot} {entry : Option Nat × Json}
    (h : entry ∈ entries found slot) : Json.item? found entry.1 = some entry.2 := by
  have hitem (hmem : entry ∈ places ((items? found).getD [])) :
      Json.item? found entry.1 = some entry.2 := by
    obtain ⟨i, hplace, hi⟩ := mem_places hmem
    cases hitems : items? found with
    | none =>
      rw [hitems] at hi
      cases hi
    | some items =>
      rw [hitems] at hi
      rw [hplace]
      exact item?_of_items? hitems hi
  cases slot with
  | token => cases h
  | child | optional =>
    obtain ⟨v, hv, rfl⟩ := List.mem_map.mp h
    exact Option.mem_toList.mp (List.mem_filter.mp hv).1
  | list => exact hitem h
  | parts => exact hitem (List.mem_filter.mp h).1

end Wire

namespace Json

theorem sizeOf_member {name : String} {members : List (String × Json)} {v : Json}
    (h : member name members = some v) : sizeOf v < sizeOf members := by
  induction members with
  | nil => cases h
  | cons entry rest ih =>
    obtain ⟨key, value⟩ := entry
    rw [member] at h
    simp only [List.cons.sizeOf_spec, Prod.mk.sizeOf_spec]
    split at h
    · next later hlater =>
      have := ih (hlater.trans h)
      omega
    · split at h
      · obtain rfl := Option.some.inj h
        omega
      · cases h

theorem sizeOf_of_item? {found : Option Json} {place : Option Nat} {w : Json}
    (h : item? found place = some w) : ∃ v, found = some v ∧ sizeOf w ≤ sizeOf v := by
  cases place with
  | none => exact ⟨w, h, Nat.le_refl _⟩
  | some i =>
    rcases found with _ | v
    · cases h
    · refine ⟨v, rfl, ?_⟩
      cases v with
      | arr items =>
        have := List.sizeOf_lt_of_mem (List.mem_of_getElem? h)
        simp only [arr.sizeOf_spec]
        omega
      | _ => cases h

/-- The members of an object; other values have none. -/
def membersOf : Json → List (String × Json)
  | .obj members => members
  | _ => []

theorem sizeOf_of_mem_entries {name : String} {v : Json} {slot : Slot}
    {entry : Option Nat × Json} (h : entry ∈ Wire.entries (member name v.membersOf) slot) :
    sizeOf entry.2 < sizeOf v := by
  obtain ⟨w, hfound, hle⟩ := sizeOf_of_item? (Wire.item?_of_mem_entries h)
  cases v with
  | obj members =>
    have hlt : sizeOf w < sizeOf members := sizeOf_member hfound
    simp only [obj.sizeOf_spec]
    omega
  | _ => cases hfound

/-- The kind of a node, if its tag is that of one. -/
def kind? (v : Json) : Option Kind := v.tag?.bind Kind.ofTag?

/-- The sites of a value that stands at a position, in the order in which they are looked
at. Under a tag that is no kind's there are none. -/
def sites (position : Position) (v : Json) : List Site :=
  .node position v.type v.tag? ::
    match v.kind? with
    | none => []
    | some kind => kind.layout.flatMap fun field =>
      .field position kind field.1 field.2 ((member field.1 v.membersOf).map type) ::
        (Wire.entries (member field.1 v.membersOf) field.2).attach.flatMap fun entry =>
          entry.1.2.sites (position ++ [(field.1, entry.1.1)])
termination_by sizeOf v
decreasing_by exact sizeOf_of_mem_entries entry.2

/-- A field of a node of this kind and the nodes in it. -/
def fieldSites (position : Position) (kind : Kind) (members : List (String × Json))
    (field : String × Slot) : List Site :=
  .field position kind field.1 field.2 ((member field.1 members).map type) ::
    (Wire.entries (member field.1 members) field.2).flatMap fun entry =>
      entry.2.sites (position ++ [(field.1, entry.1)])

theorem sites_of_no_kind (position : Position) {v : Json} (h : v.kind? = none) :
    v.sites position = [.node position v.type v.tag?] := by
  rw [sites]
  simp only [h]

theorem sites_of_kind (position : Position) {v : Json} {kind : Kind} (h : v.kind? = some kind) :
    v.sites position = .node position v.type v.tag? ::
      kind.layout.flatMap (fieldSites position kind v.membersOf) := by
  rw [sites]
  simp only [h, List.flatMap_subtype, List.unattach_attach]
  rfl

end Json

/-! ### Where the sites are -/

/-- The document has this at the position of the site. -/
def Site.StandsIn (v : Json) : Site → Prop
  | .node position type tag => ∃ w, v.at? position = some w ∧ w.type = type ∧ w.tag? = tag
  | .field position kind name slot found => ∃ w, v.at? position = some w ∧
      w.kind? = some kind ∧ (name, slot) ∈ kind.layout ∧
      (Json.member name w.membersOf).map Json.type = found

namespace Json

theorem at?_concat {v w u : Json} {position : Position} (hw : v.at? position = some w)
    {name : String} {place : Option Nat} (hu : item? (member name w.membersOf) place = some u) :
    v.at? (position ++ [(name, place)]) = some u := by
  induction position generalizing v with
  | nil =>
    obtain rfl := Option.some.inj hw
    cases v with
    | obj members => exact Option.bind_eq_some_iff.mpr ⟨u, hu, rfl⟩
    | _ => cases place <;> cases hu
  | cons step rest ih =>
    cases v with
    | obj members =>
      obtain ⟨c, hc, hrest⟩ := Option.bind_eq_some_iff.mp hw
      exact Option.bind_eq_some_iff.mpr ⟨c, hc, ih hrest⟩
    | _ => cases hw

theorem standsIn_of_mem_sites {root v : Json} {position : Position}
    (hv : root.at? position = some v) : ∀ s ∈ v.sites position, s.StandsIn root := by
  have hnode : (Site.node position v.type v.tag?).StandsIn root := ⟨v, hv, rfl, rfl⟩
  cases hkind : v.kind? with
  | none =>
    rw [sites_of_no_kind position hkind]
    exact List.forall_mem_singleton.mpr hnode
  | some kind =>
    rw [sites_of_kind position hkind]
    refine List.forall_mem_cons.mpr ⟨hnode, fun s hs => ?_⟩
    obtain ⟨field, hfield, hs⟩ := List.mem_flatMap.mp hs
    rcases List.mem_cons.mp hs with rfl | hs
    · exact ⟨v, hv, hkind, hfield, rfl⟩
    · obtain ⟨entry, hentry, hs⟩ := List.mem_flatMap.mp hs
      have := sizeOf_of_mem_entries hentry
      exact standsIn_of_mem_sites (at?_concat hv (Wire.item?_of_mem_entries hentry)) s hs
termination_by sizeOf v

end Json

/-! ### What the caller is told -/

/-- Code and text, with what is seen at the site. -/
def Site.report (maxDepth : Nat) : Site → String × String
  | .node position type _ =>
    if maxDepth ≤ position.length then
      ("TREE_TOO_DEEP", "tree deeper than " ++ toString maxDepth ++ " levels")
    else if type ≠ .object then
      ("MALFORMED_TREE", "malformed tree: expected node object, got " ++ type.name)
    else ("MALFORMED_TREE", "malformed tree: node without string \"kind\" tag")
  | .field _ kind name slot found =>
    ("MALFORMED_TREE", "malformed tree: " ++ kind.tag ++
      match slot, found with
      | .token, some type => " node: field \"" ++ name ++ "\" must be a string, got " ++ type.name
      | .list, some type | .parts, some type =>
        " node: field \"" ++ name ++ "\" must be an array, got " ++ type.name
      | _, _ => " node: missing field \"" ++ name ++ "\"")

/-- A field is at fault for what it lacks, or for the type of what it has. -/
theorem Slot.fault?_cases {slot : Slot} {kind : Kind} {name : String} {found : Option JsonType}
    {fault : TreeFault} (h : slot.fault? kind name found = some fault) :
    (fault = .missing kind name ∧ (found = none ∨ slot = .child)) ∨
    (∃ type, found = some type ∧ slot = .token ∧ fault = .notAString kind name type) ∨
    ∃ type, found = some type ∧ (slot = .list ∨ slot = .parts) ∧
      fault = .notAnArray kind name type := by
  rcases found with _ | type
  · cases slot <;> simp_all [Slot.fault?]
  · cases slot <;> cases type <;> simp_all [Slot.fault?]

namespace TreeFault

theorem message_notAString (kind : Kind) (name : String) (type : JsonType) :
    (notAString kind name type).message =
      kind.tag ++ (" node: field \"" ++ name ++ "\" must be a string, got " ++ type.name) := by
  have htext : "\" must be a string, got " = "\" must be " ++ "a string, got " := by simp
  show kind.tag ++ " node: field \"" ++ name ++ "\" must be " ++ "a string, got " ++ type.name = _
  simp only [htext, String.append_assoc]

theorem message_notAnArray (kind : Kind) (name : String) (type : JsonType) :
    (notAnArray kind name type).message =
      kind.tag ++ (" node: field \"" ++ name ++ "\" must be an array, got " ++ type.name) := by
  have htext : "\" must be an array, got " = "\" must be " ++ "an array, got " := by simp
  show kind.tag ++ " node: field \"" ++ name ++ "\" must be " ++ "an array, got " ++ type.name = _
  simp only [htext, String.append_assoc]

theorem message_missing (kind : Kind) (name : String) :
    (missing kind name).message = kind.tag ++ (" node: missing field \"" ++ name ++ "\"") := by
  show kind.tag ++ " node: missing field \"" ++ name ++ "\"" = _
  simp only [String.append_assoc]

end TreeFault

theorem Site.report_of_fault? {maxDepth : Nat} {s : Site} {fault : TreeFault}
    (h : s.fault? maxDepth = some fault) :
    s.report maxDepth = ((Error.tree fault).code.text, (Error.tree fault).message) := by
  cases s with
  | node position type tag =>
    simp only [fault?, report] at h ⊢
    split at h
    · next hdeep =>
      obtain rfl := Option.some.inj h
      rw [if_pos hdeep]
      rfl
    · next hlevel =>
      rw [if_neg hlevel]
      split at h
      · next htype =>
        obtain rfl := Option.some.inj h
        rw [if_pos htype]
        rfl
      · next htype =>
        rw [if_neg htype]
        split at h
        · obtain rfl := Option.some.inj h
          rfl
        · cases h
  | field position kind name slot found =>
    have hmessage (text : String) (hcode : (Error.tree fault).code = .malformedTree)
        (htext : fault.message = kind.tag ++ text) :
        ("MALFORMED_TREE", "malformed tree: " ++ kind.tag ++ text) =
          ((Error.tree fault).code.text, (Error.tree fault).message) := by
      rw [Error.message, hcode, String.append_assoc, ← htext]
      rfl
    rcases Slot.fault?_cases h with
      ⟨rfl, rfl | rfl⟩ | ⟨type, rfl, rfl, rfl⟩ | ⟨type, rfl, rfl | rfl, rfl⟩
    · cases slot <;> exact hmessage _ rfl (TreeFault.message_missing kind name)
    · exact hmessage _ rfl (TreeFault.message_missing kind name)
    · exact hmessage _ rfl (TreeFault.message_notAString kind name type)
    · exact hmessage _ rfl (TreeFault.message_notAnArray kind name type)
    · exact hmessage _ rfl (TreeFault.message_notAnArray kind name type)

end ScriptGate
