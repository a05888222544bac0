import ScriptGate.Proofs.Tree.Faults
import ScriptGate.Proofs.Tree.RoundTrip

/-! What the greatest depth decides, and what it does not.

Under a smaller bound a document is read as under a larger one, or refused for the same
reason, or refused for its depth (`Node.decode_of_le`). The bound enters at the sites of
nodes only, and there it comes before anything else that may be wrong
(`Site.fault?_of_le`); and a tree that was read under some bound is read under every other
that allows for its depth (`Wire.node_of_depth_le`). -/
namespace ScriptGate

/-! ### Trees that were read -/

section Imp
variable {reads reads' : Json → Node → Prop}

theorem Content.From.imp {slot : Slot} {c : Content slot} {found : Option Json}
    (h : c.From reads found) (himp : ∀ m ∈ c.children, ∀ w, reads w m → reads' w m) :
    c.From reads' found := by
  cases c with
  | token text => exact h
  | child n =>
    obtain ⟨v, hv, hnull, hn⟩ := h
    exact ⟨v, hv, hnull, himp n (List.mem_singleton_self n) v hn⟩
  | optional o =>
    cases o with
    | none => exact h
    | some n =>
      obtain ⟨v, hv, hnull, hn⟩ := h
      exact ⟨v, hv, hnull, himp n (List.mem_singleton_self n) v hn⟩
  | list ns =>
    obtain ⟨items, hitems, hns⟩ := h
    exact ⟨items, hitems, hns.imp_of_mem himp⟩
  | parts ps =>
    obtain ⟨items, hitems, hps⟩ := h
    refine ⟨items, hitems, hps.imp_of_mem fun p hp v hv => ?_⟩
    cases p with
    | fragment text => exact hv
    | embedded n => exact ⟨hv.1, himp n (List.mem_filterMap.mpr ⟨_, hp, rfl⟩) v hv.2⟩

theorem Fields.From.imp {layout : Layout} {fs : Fields layout} {members : List (String × Json)}
    (h : fs.From reads members) (himp : ∀ m ∈ fs.children, ∀ w, reads w m → reads' w m) :
    fs.From reads' members := by
  induction fs using Fields.induction with
  | nil => trivial
  | cons c tail ih =>
    obtain ⟨hc, htail⟩ := List.forall_mem_append.mp himp
    exact ⟨h.1.imp hc, ih h.2 htail⟩

/-- What stands for a node goes by the readings of the nodes under it only. -/
theorem Node.From.imp {v : Json} {n : Node} (h : n.From reads v)
    (himp : ∀ m ∈ n.children, ∀ w, reads w m → reads' w m) : n.From reads' v := by
  cases n with
  | known kind fs =>
    obtain ⟨members, hv, htag, hfs⟩ := h
    exact ⟨members, hv, htag, hfs.imp himp⟩
  | unrecognized tag => exact h

end Imp

/-- A tree that was read is read wherever there are levels enough for it. -/
theorem Wire.node_of_depth_le {limit limit' remaining remaining' : Nat} {v : Json} {n : Node}
    (h : Wire.node limit remaining v = .ok n) (hd : n.depth ≤ remaining') :
    Wire.node limit' remaining' v = .ok n := by
  induction remaining' generalizing remaining v n with
  | zero => exact absurd hd (Nat.not_le.mpr n.depth_pos)
  | succ r' ih =>
    cases remaining with
    | zero => cases h
    | succ r =>
      have hfrom := (Wire.node_succ_eq_ok_iff limit r v n).mp h
      refine (Wire.node_succ_eq_ok_iff limit' r' v n).mpr (hfrom.imp fun m hm w hw => ih hw ?_)
      cases n with
      | known kind fs => exact (Node.depth_known_le_iff kind fs r').mp hd m hm
      | unrecognized tag => cases hm

/-! ### Sites under two bounds -/

theorem Slot.fault?_ne_tooDeep (slot : Slot) (kind : Kind) (name : String)
    (found : Option JsonType) (limit : Nat) :
    slot.fault? kind name found ≠ some (.tooDeep limit) := by
  intro h
  rcases Slot.fault?_cases h with ⟨hf, _⟩ | ⟨_, _, _, hf⟩ | ⟨_, _, _, hf⟩ <;> cases hf

/-- The first of two is a fault of depth, or else they are the same and no fault of depth. -/
def CutAt (d : Nat) (o o' : Option TreeFault) : Prop :=
  o = some (.tooDeep d) ∨ o = o' ∧ ∀ limit, o' ≠ some (.tooDeep limit)

/-- A site that stands too deep is at fault for that, whatever else is wrong there; at the
others the bound makes no difference. -/
theorem Site.fault?_of_le {d d' : Nat} (h : d ≤ d') (s : Site) :
    CutAt d (s.fault? d) (s.fault? d') := by
  cases s with
  | field position kind name slot found =>
    exact .inr ⟨rfl, slot.fault?_ne_tooDeep kind name found⟩
  | node position type tag =>
    by_cases hdeep : d ≤ position.length
    · exact .inl (if_pos hdeep)
    · have hlevel : ¬ d' ≤ position.length := by omega
      refine .inr ⟨?_, fun limit hfault => ?_⟩
      · simp only [fault?, if_neg hdeep, if_neg hlevel]
      · simp only [fault?, if_neg hlevel] at hfault
        split at hfault
        · cases hfault
        · split at hfault <;> cases hfault

theorem findSome?_of_le {d d' : Nat} (h : d ≤ d') (sites : List Site) :
    CutAt d (sites.findSome? (Site.fault? d)) (sites.findSome? (Site.fault? d')) := by
  induction sites with
  | nil => exact .inr ⟨rfl, nofun⟩
  | cons s rest ih =>
    rw [List.findSome?_cons, List.findSome?_cons]
    rcases s.fault?_of_le h with hs | ⟨hs, hother⟩
    · rw [hs]
      exact .inl rfl
    · rw [hs]
      cases hfault : s.fault? d' with
      | none => exact ih
      | some fault =>
        rw [hfault] at hother
        exact .inr ⟨rfl, hother⟩

namespace Node

theorem decode_cut {d d' : Nat} (h : d ≤ d') (v : Json) :
    decode d v = .error (.tooDeep d) ∨
      decode d v = decode d' v ∧ ∀ limit, decode d' v ≠ .error (.tooDeep limit) := by
  have hcut := findSome?_of_le h (v.sites [])
  rw [← fault?_decode, ← fault?_decode] at hcut
  rcases hcut with hdeep | ⟨hsame, hother⟩
  · exact .inl ((Wire.eq_error_iff _ _).mpr hdeep)
  · refine .inr ⟨?_, fun limit hd' => hother limit ((Wire.eq_error_iff _ _).mp hd')⟩
    cases hd : decode d v with
    | error fault => exact ((Wire.eq_error_iff _ _).mpr (hsame ▸ (Wire.eq_error_iff _ _).mp hd)).symm
    | ok n =>
      have hdepth : n.depth ≤ d := Wire.node_depth hd
      exact (Wire.node_of_depth_le hd (Nat.le_trans hdepth h)).symm

/-- **The greatest depth decides on depth alone.** Under a smaller bound the document is
refused for its depth, or it is read as the same tree or refused as malformed with the
same words. One that is too deep for the larger bound is too deep for the smaller, and
a tree that is read under the larger is read under the smaller if it is no deeper than
that, and is too deep if it is. -/
theorem decode_of_le {d d' : Nat} (h : d ≤ d') (v : Json) :
    (decode d v = .error (.tooDeep d) ∨
      decode d v = decode d' v ∧
        ∀ fault, decode d' v = .error fault → (Error.tree fault).code = .malformedTree) ∧
    (∀ limit, decode d' v = .error (.tooDeep limit) → decode d v = .error (.tooDeep d)) ∧
    ∀ n, decode d' v = .ok n →
      (n.depth ≤ d → decode d v = .ok n) ∧
      (d < n.depth → decode d v = .error (.tooDeep d)) := by
  have hcut := decode_cut h v
  refine ⟨?_, fun limit hd' => ?_, fun n hn => ⟨Wire.node_of_depth_le hn, fun hdepth => ?_⟩⟩
  · refine hcut.imp_right fun ⟨hsame, hother⟩ => ⟨hsame, fun fault hfault => ?_⟩
    cases fault with
    | tooDeep limit => exact absurd hfault (hother limit)
    | _ => rfl
  · exact hcut.resolve_right fun ⟨_, hother⟩ => hother limit hd'
  · refine hcut.resolve_right fun ⟨hsame, _⟩ => ?_
    have hle : n.depth ≤ d := Wire.node_depth (hsame.trans hn)
    omega

/-- A list in a list with a number in it, and one with a node in it. The number is no node,
but where it stands too deep that is not looked at. -/
theorem decode_of_le_number :
    let v : Json := .obj [("kind", .str "args"), ("elements", .arr [
      .obj [("kind", .str "args"), ("elements", .arr [.num (.ofNat 1)])]])]
    let t := args [args [integer "1"]]
    1 ≤ 2 ∧ 2 ≤ 3 ∧ decode 3 v = .error (.notAnObject .number) ∧
      decode 2 v = .error (.tooDeep 2) ∧ decode 1 v = .error (.tooDeep 1) ∧
      decode 3 t.encode = .ok t ∧ decode 2 t.encode = .error (.tooDeep 2) := by
  intro v t
  have hdeep : decode 2 v = .error (.tooDeep 2) := rfl
  have hread : decode 3 t.encode = .ok t := rfl
  exact ⟨by decide, by decide, rfl, hdeep, (decode_of_le (by decide) v).2.1 2 hdeep, hread,
    ((decode_of_le (by decide) t.encode).2.2 t hread).2 (by decide)⟩

end Node

end ScriptGate
