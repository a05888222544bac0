import ScriptGate.Proofs.Tree.Sites

/-! The first thing wrong with a document.

Every part of the reader fails for the first of its sites at which something is wrong:
that is shown of the contents of a field, of the fields of a node and of a node in turn,
under the same law for the nodes below (`Wire.fault?_node`). So the reader reports the
first fault in the order of the sites, and reads the document if there is none
(`Node.decode_reports_first_fault`). -/
namespace ScriptGate

namespace Json

theorem tag?_obj_eq_some_iff (members : List (String × Json)) (tag : String) :
    tag? (.obj members) = some tag ↔ member "kind" members = some (.str tag) := by
  rw [tag?]
  split <;> simp_all

end Json

/-! ### Faults of a reader -/

namespace Wire

/-- What a reader found wrong. -/
def fault? {α : Type} : Except TreeFault α → Option TreeFault
  | .ok _ => none
  | .error fault => some fault

theorem fault?_map {α β : Type} (f : α → β) (x : Except TreeFault α) :
    fault? (f <$> x) = fault? x := by
  cases x <;> rfl

/-- Where the second reader finds the same whatever the first one read, it is asked only if
the first one found nothing. -/
theorem fault?_bind {α β : Type} (x : Except TreeFault α) {f : α → Except TreeFault β}
    {o : Option TreeFault} (h : ∀ a, fault? (f a) = o) :
    fault? (x >>= f) = (fault? x).or o := by
  cases x with
  | error fault => rfl
  | ok a => exact (h a).trans Option.none_or.symm

theorem fault?_mapM {α β : Type} (f : α → Except TreeFault β) (as : List α) :
    fault? (as.mapM f) = as.findSome? fun a => fault? (f a) := by
  induction as with
  | nil => rfl
  | cons a as ih =>
    rw [List.mapM_cons, fault?_bind _ (o := fault? (as.mapM f)), ih, List.findSome?_cons]
    · cases fault? (f a) <;> rfl
    · intro b
      cases as.mapM f <;> rfl

theorem findSome?_places {β : Type} (g : Json → Option β) (items : List Json) :
    ((places items).findSome? fun entry => g entry.2) = items.findSome? g := by
  have hitems : items.zipIdx.map Prod.fst = items := List.zipIdx_map_fst 0 items
  calc ((places items).findSome? fun entry => g entry.2)
    _ = (items.zipIdx.map Prod.fst).findSome? g := by
        rw [places, List.findSome?_map, List.findSome?_map]
        rfl
    _ = items.findSome? g := by rw [hitems]

section Levels
variable (child : Json → Except TreeFault Node)

theorem fault?_part (v : Json) :
    fault? (part child v) = if v.type != .string then fault? (child v) else none := by
  cases v with
  | str text => rfl
  | _ => exact fault?_map _ _

/-- A list is wrong if no array was found, or else for the first item that is. -/
theorem fault?_items {β γ : Type} (read : Json → Except TreeFault β) (wrap : List β → γ)
    (kind : Kind) (name : String) (found : Option Json) :
    fault? (array kind name found >>= fun items => wrap <$> items.mapM read) =
      (Slot.list.fault? kind name (found.map Json.type)).or
        (((items? found).getD []).findSome? fun v => fault? (read v)) := by
  have hitems (items : List Json) : fault? (wrap <$> items.mapM read) =
      items.findSome? fun v => fault? (read v) := by
    rw [fault?_map, fault?_mapM]
  rcases found with _ | v
  · exact hitems []
  · cases v with
    | null => exact hitems []
    | arr items => exact hitems items
    | _ => rfl

/-- What is wrong with a field is wrong with what was found, or with a node in it. -/
theorem fault?_content (kind : Kind) (name : String) (found : Option Json) (slot : Slot) :
    fault? (content child kind name found slot) =
      (slot.fault? kind name (found.map Json.type)).or
        ((entries found slot).findSome? fun entry => fault? (child entry.2)) := by
  cases slot with
  | token =>
    rcases found with _ | v
    · rfl
    · cases v <;> rfl
  | child | optional =>
    rcases found with _ | v
    · rfl
    · cases v with
      | null => rfl
      | _ =>
        simp only [content, fault?_map, entries]
        simp [Slot.fault?, Json.type]
  | list =>
    rw [entries, findSome?_places fun v => fault? (child v)]
    exact fault?_items child Content.list kind name found
  | parts =>
    rw [entries, List.findSome?_filter, findSome?_places fun v =>
      if v.type != .string then fault? (child v) else none]
    simp only [← fault?_part]
    exact fault?_items (part child) Content.parts kind name found

theorem object_of_no_tag {members : List (String × Json)} (h : Json.tag? (.obj members) = none) :
    object child (.obj members) = .error .noKind := by
  rw [Json.tag?] at h
  rw [object]
  split at h <;> simp_all

variable {child} {limit : Nat} {position : Position}
  (hchild : ∀ w step, fault? (child w) =
    (w.sites (position ++ [step])).findSome? (Site.fault? limit))
include hchild

theorem fault?_fields (kind : Kind) (members : List (String × Json)) (layout : Layout) :
    fault? (fields child kind members layout) =
      (layout.flatMap (Json.fieldSites position kind members)).findSome? (Site.fault? limit) := by
  have hfield (field : String × Slot) :
      (Json.fieldSites position kind members field).findSome? (Site.fault? limit) =
        fault? (content child kind field.1 (Json.member field.1 members) field.2) := by
    rw [fault?_content, Json.fieldSites, List.findSome?_cons, List.findSome?_flatMap]
    simp only [← hchild]
    cases h : Site.fault? limit (.field position kind field.1 field.2 _) <;> simp_all [Site.fault?]
  induction layout with
  | nil => rfl
  | cons field rest ih =>
    rw [List.flatMap_cons, List.findSome?_append, hfield, ← ih]
    refine fault?_bind _ fun head => ?_
    exact fault?_map (Fields.cons head) _

theorem fault?_object (hposition : position.length < limit) (v : Json) :
    fault? (object child v) = (v.sites position).findSome? (Site.fault? limit) := by
  have hlevel : ¬ limit ≤ position.length := Nat.not_le.mpr hposition
  cases v with
  | obj members =>
    have hsite (tag : String) :
        (Site.node position (Json.obj members).type (some tag)).fault? limit = none := by
      simp [Site.fault?, hlevel, Json.type]
    cases htag : Json.tag? (.obj members) with
    | none =>
      have hkind : Json.kind? (.obj members) = none := by rw [Json.kind?, htag]; rfl
      rw [object_of_no_tag child htag, Json.sites_of_no_kind position hkind, htag]
      simp [fault?, Site.fault?, hlevel, Json.type]
    | some tag =>
      have hmember := (Json.tag?_obj_eq_some_iff members tag).mp htag
      cases hk : Kind.ofTag? tag with
      | none =>
        have hkind : Json.kind? (.obj members) = none := by rw [Json.kind?, htag]; exact hk
        rw [Json.sites_of_no_kind position hkind, htag, List.findSome?_singleton]
        simp only [object, hmember, hk]
        exact (hsite tag).symm
      | some kind =>
        have hkind : Json.kind? (.obj members) = some kind := by rw [Json.kind?, htag]; exact hk
        rw [Json.sites_of_kind position hkind, htag, List.findSome?_cons, hsite tag]
        simp only [object, hmember, hk, fault?_map]
        exact fault?_fields hchild kind members kind.layout
  | _ =>
    rw [Json.sites_of_no_kind position rfl]
    simp [object, fault?, Site.fault?, hlevel, Json.type]

omit hchild in
/-- **The reader finds the first fault there is**, in the order of the sites. -/
theorem fault?_node (limit remaining : Nat) (position : Position)
    (h : position.length + remaining = limit) (v : Json) :
    fault? (node limit remaining v) = (v.sites position).findSome? (Site.fault? limit) := by
  induction remaining generalizing position v with
  | zero =>
    have hdeep : (Site.node position v.type v.tag?).fault? limit = some (.tooDeep limit) :=
      if_pos (Nat.le_of_eq h.symm)
    rw [Json.sites, List.findSome?_cons, hdeep]
    rfl
  | succ remaining ih =>
    refine fault?_object (fun w step => ?_) (by omega) v
    refine ih (position ++ [step]) ?_ w
    rw [List.length_append, List.length_singleton]
    omega

end Levels

end Wire

/-! ### All together -/

theorem Wire.eq_error_iff {α : Type} (x : Except TreeFault α) (fault : TreeFault) :
    x = .error fault ↔ fault? x = some fault := by
  cases x <;> simp [fault?]

theorem Wire.exists_ok_iff {α : Type} (x : Except TreeFault α) :
    (∃ a, x = .ok a) ↔ fault? x = none := by
  cases x <;> simp [fault?]

namespace Node

theorem fault?_decode (maxDepth : Nat) (v : Json) :
    Wire.fault? (decode maxDepth v) = (v.sites []).findSome? (Site.fault? maxDepth) :=
  Wire.fault?_node maxDepth maxDepth [] (Nat.zero_add maxDepth) v

/-- **Reading a document fails for the first thing that is wrong with it, and for nothing
else.** Every site has what the document has at its position. The document is read if
nothing is wrong at any of them; else the first at which something is wrong decides what
the caller is told, and documents that agree up to such a site fail alike, whatever comes
after it. -/
theorem decode_reports_first_fault (maxDepth : Nat) (v : Json) :
    (∀ s ∈ v.sites [], s.StandsIn v) ∧
    ((∃ n, decode maxDepth v = .ok n) ↔ ∀ s ∈ v.sites [], s.fault? maxDepth = none) ∧
    (∀ fault, decode maxDepth v = .error fault ↔ ∃ before s after,
      v.sites [] = before ++ s :: after ∧ s.fault? maxDepth = some fault ∧
        ∀ t ∈ before, t.fault? maxDepth = none) ∧
    (∀ (s : Site) fault, s.fault? maxDepth = some fault →
      s.report maxDepth = ((Error.tree fault).code.text, (Error.tree fault).message)) ∧
    ∀ w before s, (s.fault? maxDepth).isSome = true →
      before ++ [s] <+: v.sites [] → before ++ [s] <+: w.sites [] →
        decode maxDepth w = decode maxDepth v := by
  refine ⟨Json.standsIn_of_mem_sites rfl, ?_, fun fault => ?_, fun _ _ => Site.report_of_fault?, ?_⟩
  · rw [Wire.exists_ok_iff, fault?_decode, List.findSome?_eq_none_iff]
  · rw [Wire.eq_error_iff, fault?_decode, List.findSome?_eq_some_iff]
  · intro w before s hs hv hw
    have hfound : ((before ++ [s]).findSome? (Site.fault? maxDepth)).isSome = true := by
      rw [List.findSome?_append, List.findSome?_singleton, Option.isSome_or, hs, Bool.or_true]
    obtain ⟨fault, hfault⟩ := Option.isSome_iff_exists.mp hfound
    have herror (u : Json) (hu : before ++ [s] <+: u.sites []) :
        decode maxDepth u = .error fault := by
      rw [Wire.eq_error_iff, fault?_decode]
      exact hu.findSome?_eq_some hfault
    rw [herror w hw, herror v hv]

/-- A call without a name, on an identifier without a text: the identifier comes first. -/
def badCall : Json :=
  .obj [("kind", .str "call"), ("block", .bool true),
    ("target", .obj [("kind", .str "identifier"), ("token", .null)])]

theorem decode_reports_first_fault_target :
    decode 2 badCall = .error (.notAString .identifier "token" .null) ∧
    ∃ before s after, badCall.sites [] = before ++ s :: after ∧
      (∀ t ∈ before, t.fault? 2 = none) ∧
      s.report 2 = ("MALFORMED_TREE",
        "malformed tree: identifier node: field \"token\" must be a string, got null") := by
  have hread : decode 2 badCall = .error (.notAString .identifier "token" .null) := rfl
  obtain ⟨-, -, hfirst, hreport, -⟩ := decode_reports_first_fault 2 badCall
  obtain ⟨before, s, after, hsites, hs, hbefore⟩ := (hfirst _).mp hread
  exact ⟨hread, before, s, after, hsites, hbefore, (hreport s _ hs).trans (by decide +kernel)⟩

end Node

end ScriptGate
