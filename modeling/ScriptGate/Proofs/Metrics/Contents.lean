import ScriptGate.Proofs.Metrics.Cumulative

/-! The registries that changes lead to, and when two of them hold the same.

What a registry holds has no order: the series of a family may stand in any
(`Registry.Same`). Whatever the changes, each label set stands once, its labels have the
names they were given, and a histogram has one bucket for each bound (`Registry.Clean`):
each change keeps it so (`Registry.clean_change`), and so does every rearrangement. -/
namespace ScriptGate.Metrics

/-- A change to the registry. -/
inductive Change where
  | check (call : Counter.Call)
  | rejection (call : Counter.Call)
  | requestError (call : Counter.Call)
  | duration (o : Observation)
  | drain
  deriving DecidableEq, Repr

def Change.labels : Change → List Label
  | .check call | .rejection call | .requestError call => call.labels
  | .duration o => o.labels
  | .drain => []

/-! ### Families -/

namespace Family

variable {α : Type}

/-- Each label set stands once, and its labels have names. -/
structure Clean (f : Family α) : Prop where
  nodup : (series f).Nodup
  names : ∀ key ∈ series f, ∀ l ∈ key, Label.isName l.1

theorem clean_update {f : Family α} (h : Clean f) {labels : List Label}
    (hnames : ∀ l ∈ labels, Label.isName l.1) (fresh : α) (change : α → α) :
    Clean (f.update (.ofList labels) fresh change) where
  nodup := nodup_series_update _ _ _ h.nodup
  names := by
    intro key hkey l hl
    rcases (mem_series_update _ _ _ _ _).mp hkey with rfl | hkey
    · exact hnames l ((LabelSet.mem_ofList l labels).mp hl)
    · exact h.names key hkey l hl

theorem Clean.of_perm {f g : Family α} (h : Clean f) (hperm : g.Perm f) : Clean g where
  nodup := (hperm.map Prod.fst).nodup_iff.mpr h.nodup
  names key hkey := h.names key ((hperm.map Prod.fst).mem_iff.mp hkey)

/-- What holds of fresh measurements and is kept by a change holds of all of them. -/
theorem forall_update {P : α → Prop} {f : Family α} (h : ∀ s ∈ f, P s.2) (labels : LabelSet)
    {fresh : α} {change : α → α} (hfresh : P fresh) (hchange : ∀ a, P a → P (change a)) :
    ∀ s ∈ f.update labels fresh change, P s.2 := by
  induction f with
  | nil => simpa [update] using hchange fresh hfresh
  | cons s rest ih =>
    obtain ⟨hs, hrest⟩ := List.forall_mem_cons.mp h
    rw [update]
    split
    · exact List.forall_mem_cons.mpr ⟨hchange s.2 hs, hrest⟩
    · exact List.forall_mem_cons.mpr ⟨hs, ih hrest⟩

end Family

/-- One bucket for each bound. -/
def Histogram.Bucketed (h : Histogram) : Prop :=
  ∃ values : UInt64 → UInt64, h.buckets = bounds.map values

theorem Histogram.bucketed_observe {h : Histogram} (hb : h.Bucketed) (m : UInt64) :
    (h.observe m).Bucketed := by
  obtain ⟨values, hvalues⟩ := hb
  refine ⟨fun bound => if m ≤ bound then values bound + 1 else values bound, ?_⟩
  rw [observe, hvalues, List.zipWith_map_right, List.zipWith_self]

namespace Registry

def change (r : Registry) : Change → Registry
  | .check call => { r with checks := r.checks.apply call }
  | .rejection call => { r with rejections := r.rejections.apply call }
  | .requestError call => { r with requestErrors := r.requestErrors.apply call }
  | .duration o => { r with checkDuration := r.checkDuration.observe o.labels o.duration }
  | .drain => r.setDraining

/-- The registry after some changes to an empty one. -/
def changed (changes : List Change) : Registry := changes.foldl change {}

/-! ### Clean registries -/

structure Clean (r : Registry) : Prop where
  checks : Family.Clean r.checks.family
  rejections : Family.Clean r.rejections.family
  requestErrors : Family.Clean r.requestErrors.family
  checkDuration : Family.Clean r.checkDuration.family
  bucketed : ∀ s ∈ r.checkDuration.family, s.2.Bucketed

theorem clean_apply {c : Counter} (h : Family.Clean c.family) {call : Counter.Call}
    (hnames : ∀ l ∈ call.labels, Label.isName l.1) : Family.Clean (c.apply call).family := by
  rw [Counter.family_apply]
  exact Family.clean_update h hnames 0 _

theorem clean_change {r : Registry} (h : r.Clean) {c : Change}
    (hnames : ∀ l ∈ c.labels, Label.isName l.1) : (r.change c).Clean := by
  cases c with
  | check call => exact { h with checks := clean_apply h.checks hnames }
  | rejection call => exact { h with rejections := clean_apply h.rejections hnames }
  | requestError call => exact { h with requestErrors := clean_apply h.requestErrors hnames }
  | duration o =>
    exact { h with
      checkDuration := Family.clean_update h.checkDuration hnames _ _
      bucketed := Family.forall_update h.bucketed _ ⟨fun _ => 0, rfl⟩ fun _ hb =>
        Histogram.bucketed_observe hb _ }
  | drain => exact { h with }

theorem clean_empty : Clean {} where
  checks := ⟨.nil, nofun⟩
  rejections := ⟨.nil, nofun⟩
  requestErrors := ⟨.nil, nofun⟩
  checkDuration := ⟨.nil, nofun⟩
  bucketed := nofun

theorem clean_changed {changes : List Change}
    (hnames : ∀ c ∈ changes, ∀ l ∈ c.labels, Label.isName l.1) : (changed changes).Clean := by
  have hfoldl {r : Registry} (hr : r.Clean) : (changes.foldl change r).Clean := by
    induction changes generalizing r with
    | nil => exact hr
    | cons c changes ih =>
      obtain ⟨hc, hrest⟩ := List.forall_mem_cons.mp hnames
      exact ih hrest (clean_change hr hc)
  exact hfoldl clean_empty

/-! ### The same contents -/

/-- The same series with the same measurements, in any order. -/
structure Same (r s : Registry) : Prop where
  checks : r.checks.family.Perm s.checks.family
  rejections : r.rejections.family.Perm s.rejections.family
  requestErrors : r.requestErrors.family.Perm s.requestErrors.family
  checkDuration : r.checkDuration.family.Perm s.checkDuration.family
  draining : r.draining = s.draining

theorem Same.symm {r s : Registry} (h : r.Same s) : s.Same r where
  checks := h.checks.symm
  rejections := h.rejections.symm
  requestErrors := h.requestErrors.symm
  checkDuration := h.checkDuration.symm
  draining := h.draining.symm

theorem Same.trans {r s t : Registry} (h : r.Same s) (h' : s.Same t) : r.Same t where
  checks := h.checks.trans h'.checks
  rejections := h.rejections.trans h'.rejections
  requestErrors := h.requestErrors.trans h'.requestErrors
  checkDuration := h.checkDuration.trans h'.checkDuration
  draining := h.draining.trans h'.draining

theorem Clean.of_same {r s : Registry} (h : s.Clean) (hsame : r.Same s) : r.Clean where
  checks := h.checks.of_perm hsame.checks
  rejections := h.rejections.of_perm hsame.rejections
  requestErrors := h.requestErrors.of_perm hsame.requestErrors
  checkDuration := h.checkDuration.of_perm hsame.checkDuration
  bucketed s hs := h.bucketed s (hsame.checkDuration.mem_iff.mp hs)

end Registry

end ScriptGate.Metrics
