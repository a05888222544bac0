import ScriptGate.Metrics.Counter

/-! How series of measurements are told apart, and what an update does to them.

Putting labels in order loses none and adds none, and labels have one order only, so two
lists are one label set exactly when they are permutations (`LabelSet.ofList_eq_iff`). An
update touches the series it names and no other: `Family.get?_update` says it of the
measurements, `Family.mem_series_update` of the series there are, `Counter.total_increment`
of the sum over all series that share a label. After any updates a measurement is what
those under its own key made of it (`Family.getD_updates`). -/
namespace ScriptGate.Metrics

/-! ### The order of labels -/

namespace Label

theorem le_iff (a b : Label) : a.le b ↔ a.1 < b.1 ∨ a.1 = b.1 ∧ ¬ b.2 < a.2 := by
  simp only [le, Bool.or_eq_true, Bool.and_eq_true, decide_eq_true_eq, beq_iff_eq,
    Bool.not_eq_true', decide_eq_false_iff_not]

theorem le_total (a b : Label) : a.le b ∨ b.le a := by
  simp only [le_iff]
  grind

theorem le_trans {a b c : Label} (hab : a.le b) (hbc : b.le c) : a.le c := by
  simp only [le_iff] at *
  grind

theorem le_antisymm {a b : Label} (hab : a.le b) (hba : b.le a) : a = b := by
  simp only [le_iff] at *
  grind

end Label

namespace LabelSet

theorem insert_perm (l : Label) (s : LabelSet) : (insert l s).Perm (l :: s) := by
  induction s with
  | nil => exact .refl _
  | cons m rest ih =>
    rw [insert]
    split
    · exact .refl _
    · exact (ih.cons m).trans (.swap l m rest)

theorem ofList_perm (labels : List Label) : (ofList labels).Perm labels := by
  induction labels with
  | nil => exact .refl _
  | cons l rest ih => exact (insert_perm l _).trans (ih.cons l)

theorem mem_ofList (l : Label) (labels : List Label) : l ∈ ofList labels ↔ l ∈ labels :=
  (ofList_perm labels).mem_iff

theorem insert_pairwise (l : Label) {s : LabelSet} (h : s.Pairwise (Label.le · ·)) :
    (insert l s).Pairwise (Label.le · ·) := by
  induction s with
  | nil => exact List.pairwise_singleton _ _
  | cons m rest ih =>
    obtain ⟨hm, hrest⟩ := List.pairwise_cons.mp h
    rw [insert]
    split
    · next hle =>
      refine List.pairwise_cons.mpr ⟨List.forall_mem_cons.mpr ⟨hle, ?_⟩, h⟩
      intro k hk
      exact Label.le_trans hle (hm k hk)
    · next hle =>
      refine List.pairwise_cons.mpr ⟨?_, ih hrest⟩
      intro k hk
      rcases List.mem_cons.mp ((insert_perm l rest).mem_iff.mp hk) with rfl | hk
      · exact (Label.le_total k m).resolve_left hle
      · exact hm k hk

theorem ofList_pairwise (labels : List Label) : (ofList labels).Pairwise (Label.le · ·) := by
  induction labels with
  | nil => exact .nil
  | cons l rest ih => exact insert_pairwise l ih

/-- **Label lists are one set exactly when they are permutations of each other.** -/
theorem ofList_eq_iff {a b : List Label} : ofList a = ofList b ↔ a.Perm b := by
  constructor
  · intro h
    exact (ofList_perm a).symm.trans (h ▸ ofList_perm b)
  · intro h
    have hperm : (ofList a).Perm (ofList b) := (ofList_perm a).trans (h.trans (ofList_perm b).symm)
    exact hperm.eq_of_pairwise (fun _ _ _ _ => Label.le_antisymm) (ofList_pairwise a)
      (ofList_pairwise b)

/-- What belongs to a label set is what has its labels in some order. -/
theorem filter_ofList_eq {ι : Type} (labelsOf : ι → List Label) (us : List ι)
    (labels : List Label) :
    (us.filter fun u => ofList (labelsOf u) = ofList labels) =
      us.filter fun u => (labelsOf u).isPerm labels := by
  refine List.filter_congr fun u _ => ?_
  rw [Bool.eq_iff_iff, decide_eq_true_iff, ofList_eq_iff, List.isPerm_iff]

theorem ofList_ofList (labels : List Label) : ofList (ofList labels) = ofList labels :=
  ofList_eq_iff.mpr (ofList_perm labels)

/-- A label set of a profile and one more label determines both. -/
theorem ofList_pair_inj {name p q v w : String} (hname : name ≠ "profile") :
    ofList [("profile", p), (name, v)] = ofList [("profile", q), (name, w)] ↔ p = q ∧ v = w := by
  constructor
  · intro h
    have hmem (l : Label) : l ∈ [("profile", p), (name, v)] ↔ l ∈ [("profile", q), (name, w)] := by
      rw [← mem_ofList, h, mem_ofList]
    have hp := (hmem ("profile", p)).mp List.mem_cons_self
    have hv := (hmem (name, v)).mp (List.mem_cons_of_mem _ List.mem_cons_self)
    simp only [List.mem_cons, Prod.mk.injEq, hname, hname.symm, true_and, false_and, or_false,
      false_or, List.not_mem_nil] at hp hv
    exact ⟨hp, hv⟩
  · intro h
    rw [h.1, h.2]

theorem ofList_singleton_inj {name p q : String} :
    ofList [(name, p)] = ofList [(name, q)] ↔ p = q := by
  simp [ofList, insert]

end LabelSet

namespace Family

variable {α : Type}

/-- The label sets ever touched. -/
def series (f : Family α) : List LabelSet := f.map Prod.fst

theorem get?_cons (s : LabelSet × α) (f : Family α) (key : LabelSet) :
    get? key (s :: f) = if s.1 = key then some s.2 else get? key f := by
  by_cases h : s.1 = key <;> simp [get?, h]

theorem get?_update (labels key : LabelSet) (fresh : α) (change : α → α) (f : Family α) :
    (f.update labels fresh change).get? key =
      if labels = key then some (change ((f.get? key).getD fresh)) else f.get? key := by
  induction f with
  | nil => exact get?_cons _ _ _
  | cons s rest ih =>
    obtain ⟨other, a⟩ := s
    rw [update]
    by_cases ho : other = labels
    · subst ho
      by_cases hk : other = key <;> simp [get?_cons, hk]
    · rw [if_neg ho, get?_cons, get?_cons, ih]
      by_cases hk : other = key
      · have hl : labels ≠ key := fun h => ho (hk.trans h.symm)
        simp [hk, hl]
      · simp [hk]

theorem mem_series_update (labels key : LabelSet) (fresh : α) (change : α → α) (f : Family α) :
    key ∈ series (f.update labels fresh change) ↔ key = labels ∨ key ∈ series f := by
  induction f with
  | nil => exact List.mem_cons
  | cons s rest ih =>
    obtain ⟨other, a⟩ := s
    rw [update]
    by_cases ho : other = labels
    · simp [series, ho]
    · simp only [series, List.map_cons, List.mem_cons, if_neg ho] at ih ⊢
      rw [ih]
      exact or_left_comm

/-- An update keeps each label set from standing twice. -/
theorem nodup_series_update (labels : LabelSet) (fresh : α) (change : α → α) {f : Family α}
    (h : (series f).Nodup) : (series (f.update labels fresh change)).Nodup := by
  induction f with
  | nil => simp [series, update]
  | cons s rest ih =>
    obtain ⟨other, a⟩ := s
    obtain ⟨hnew, hrest⟩ := List.nodup_cons.mp h
    rw [update]
    by_cases ho : other = labels
    · rw [if_pos ho]
      exact h
    · rw [if_neg ho]
      refine List.nodup_cons.mpr ⟨?_, ih hrest⟩
      intro hmem
      rcases (mem_series_update labels other fresh change rest).mp hmem with hl | hr
      · exact ho hl
      · exact hnew hr

/-! ### Look-up -/

theorem mem_iff_get? {f : Family α} (h : (series f).Nodup) (key : LabelSet) (a : α) :
    (key, a) ∈ f ↔ f.get? key = some a := by
  induction f with
  | nil => simp [get?]
  | cons s rest ih =>
    obtain ⟨hnew, hrest⟩ := List.nodup_cons.mp h
    rw [get?_cons, List.mem_cons, ih hrest]
    split
    · next hs =>
      subst hs
      have hnone : get? s.1 rest ≠ some a := fun hget =>
        hnew (List.mem_map.mpr ⟨_, (ih hrest).mpr hget, rfl⟩)
      simp [hnone, Prod.ext_iff, eq_comm]
    · next hs =>
      have hne : (key, a) ≠ s := fun he => hs (he ▸ rfl)
      simp [hne]

theorem mem_series_iff_get? (f : Family α) (key : LabelSet) :
    key ∈ series f ↔ (f.get? key).isSome := by
  induction f with
  | nil => simp [series, get?]
  | cons s rest ih =>
    rw [get?_cons]
    by_cases hs : s.1 = key
    · simp [series, hs]
    · rw [if_neg hs, ← ih]
      simp [series, Ne.symm hs]

/-- Families with the same measurements are the same, up to the order of their series. -/
theorem perm_of_get?_eq {f g : Family α} (hf : (series f).Nodup) (hg : (series g).Nodup)
    (h : ∀ key, f.get? key = g.get? key) : f.Perm g := by
  have hne (s t : LabelSet × α) (hst : s.1 ≠ t.1) : s ≠ t := fun he => hst (he ▸ rfl)
  have hnodup {f : Family α} (hf : (series f).Nodup) : f.Nodup :=
    List.Pairwise.of_map Prod.fst hne hf
  refine (List.perm_ext_iff_of_nodup (hnodup hf) (hnodup hg)).mpr ?_
  rintro ⟨key, a⟩
  rw [mem_iff_get? hf, mem_iff_get? hg, h]

/-! ### Any updates -/

section Updates
variable {ι : Type} (key : ι → LabelSet) (fresh : α) (change : ι → α → α)

/-- The family after any updates, each of the series under its key. -/
def updates (f : Family α) (us : List ι) : Family α :=
  us.foldl (fun f u => f.update (key u) fresh (change u)) f

/-- A measurement is changed by the updates under its own key, in their order. -/
theorem getD_updates (f : Family α) (us : List ι) (k : LabelSet) :
    ((f.updates key fresh change us).get? k).getD fresh =
      (us.filter fun u => key u = k).foldl (fun a u => change u a) ((f.get? k).getD fresh) := by
  induction us generalizing f with
  | nil => rfl
  | cons u us ih =>
    rw [updates, List.foldl_cons, ← updates, ih, get?_update]
    by_cases hk : key u = k <;> simp [hk]

theorem mem_series_updates (f : Family α) (us : List ι) (k : LabelSet) :
    k ∈ series (f.updates key fresh change us) ↔ (∃ u ∈ us, key u = k) ∨ k ∈ series f := by
  induction us generalizing f with
  | nil => simp [updates]
  | cons u us ih =>
    rw [updates, List.foldl_cons, ← updates, ih, mem_series_update, eq_comm]
    simp only [List.mem_cons, exists_eq_or_imp, or_assoc, or_left_comm]

theorem nodup_series_updates {f : Family α} (us : List ι) (h : (series f).Nodup) :
    (series (f.updates key fresh change us)).Nodup := by
  induction us generalizing f with
  | nil => exact h
  | cons u us ih => exact ih (nodup_series_update _ _ _ h)

/-- Updates that commute may come in any order. -/
theorem updates_perm (hcomm : ∀ u v a, change u (change v a) = change v (change u a))
    {us vs : List ι} (h : us.Perm vs) :
    (updates key fresh change [] us).Perm (updates key fresh change [] vs) := by
  have hnil : (series ([] : Family α)).Nodup := .nil
  refine perm_of_get?_eq (nodup_series_updates key fresh change us hnil)
    (nodup_series_updates key fresh change vs hnil) fun k => ?_
  have hsome : ((updates key fresh change [] us).get? k).isSome =
      ((updates key fresh change [] vs).get? k).isSome := by
    rw [Bool.eq_iff_iff, ← mem_series_iff_get?, ← mem_series_iff_get?, mem_series_updates,
      mem_series_updates]
    simp only [h.mem_iff]
  have hgetD : ((updates key fresh change [] us).get? k).getD fresh =
      ((updates key fresh change [] vs).get? k).getD fresh := by
    rw [getD_updates, getD_updates]
    exact (h.filter _).foldl_eq' (fun u _ v _ a => hcomm v u a) _
  revert hsome hgetD
  cases (updates key fresh change [] us).get? k <;> cases (updates key fresh change [] vs).get? k <;>
    simp

end Updates

end Family

namespace Counter

/-- The sum over all series that carry a label. -/
def total (c : Counter) (label : Label) : UInt64 :=
  c.family.foldr (fun s sum => if label ∈ s.1 then s.2 + sum else sum) 0

theorem total_increment (c : Counter) (labels : List Label) (label : Label) :
    (c.increment labels).total label = c.total label + if label ∈ labels then 1 else 0 := by
  have hupdate (f : Family UInt64) :
      total ⟨f.update (.ofList labels) 0 (· + 1)⟩ label =
        total ⟨f⟩ label + if label ∈ labels then 1 else 0 := by
    unfold total
    induction f with
    | nil => simp [Family.update, LabelSet.mem_ofList]
    | cons s rest ih =>
      obtain ⟨other, n⟩ := s
      rw [Family.update]
      by_cases ho : other = LabelSet.ofList labels
      · subst ho
        rw [if_pos rfl]
        simp only [List.foldr_cons, LabelSet.mem_ofList]
        split <;> grind
      · rw [if_neg ho, List.foldr_cons, List.foldr_cons, ih]
        split
        · exact (UInt64.add_assoc _ _ _).symm
        · rfl
  exact hupdate c.family

end Counter

end ScriptGate.Metrics
