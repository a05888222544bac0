import Mathlib.Data.List.Induction
import ScriptGate.Proofs.Metrics.Counting
import ScriptGate.Proofs.Metrics.Sample

/-! What histograms hold after any observations.

A series holds a summary of the durations observed under permutations of its labels: how
many there are, their sum, and for each bound how many are within it (`Histogram.summary`).
So the buckets grow with their bounds and the count is above them all, and neither the order
of the observations nor those under other labels can be seen (`Histograms.observed_cumulative`). -/
namespace ScriptGate.Metrics

/-- A duration observed under labels. -/
structure Observation where
  labels : List Label
  duration : Duration
  deriving DecidableEq, Repr

namespace Observation

/-- Whole microseconds, at most the largest word. -/
def micros (o : Observation) : Nat :=
  min ((o.duration.seconds * 1000000000 + o.duration.nanos) / 1000) (UInt64.size - 1)

theorem toNat_micros (o : Observation) : o.duration.micros.toNat = o.micros := by
  have hfloor : (o.duration.seconds * 1000000000 + o.duration.nanos) / 1000 =
      o.duration.seconds * 1000000 + o.duration.nanos / 1000 := by omega
  have hword : min (o.duration.seconds * 1000000 + o.duration.nanos / 1000) (UInt64.size - 1) <
      UInt64.size := Nat.lt_of_le_of_lt (Nat.min_le_right ..) (by decide)
  rw [Duration.micros, micros, hfloor]
  exact UInt64.toNat_ofNat_of_lt hword

/-- The observations under labels, in any order. -/
def under (labels : List Label) (obs : List Observation) : List Observation :=
  obs.filter fun o => o.labels.isPerm labels

end Observation

/-! ### One series -/

namespace Histogram

/-- Two durations may be observed in either order. -/
theorem observe_comm (h : Histogram) (m n : UInt64) :
    (h.observe m).observe n = (h.observe n).observe m := by
  have hbuckets (bs ns : List UInt64) :
      List.zipWith (fun bound k => if n ≤ bound then k + 1 else k) bs
        (List.zipWith (fun bound k => if m ≤ bound then k + 1 else k) bs ns) =
      List.zipWith (fun bound k => if m ≤ bound then k + 1 else k) bs
        (List.zipWith (fun bound k => if n ≤ bound then k + 1 else k) bs ns) := by
    induction bs generalizing ns with
    | nil => rfl
    | cons b bs ih =>
      cases ns with
      | nil => rfl
      | cons k ns =>
        simp only [List.zipWith_cons_cons, ih]
        grind
  have hsum : h.sum + m + n = h.sum + n + m := by
    rw [UInt64.add_assoc, UInt64.add_comm m, ← UInt64.add_assoc]
  show Histogram.mk _ _ _ = Histogram.mk _ _ _
  rw [Histogram.mk.injEq]
  exact ⟨rfl, hsum, hbuckets _ _⟩

/-- What a histogram holds of some durations. -/
def summary (ms : List UInt64) : Histogram where
  count := .ofNat ms.length
  sum := ms.foldl (· + ·) 0
  buckets := bounds.map fun bound => .ofNat (ms.countP (· ≤ bound))

theorem observe_summary (ms : List UInt64) (m : UInt64) :
    (summary ms).observe m = summary (ms ++ [m]) := by
  have hcount : UInt64.ofNat ms.length + 1 = .ofNat (ms ++ [m]).length := by
    simp [UInt64.ofNat_add]
  have hsum : ms.foldl (· + ·) 0 + m = (ms ++ [m]).foldl (· + ·) 0 := by
    rw [List.foldl_append, List.foldl_cons, List.foldl_nil]
  have hbuckets : List.zipWith (fun bound n => if m ≤ bound then n + 1 else n) bounds
      (bounds.map fun bound => UInt64.ofNat (ms.countP (· ≤ bound))) =
      bounds.map fun bound => .ofNat ((ms ++ [m]).countP (· ≤ bound)) := by
    rw [List.zipWith_map_right, List.zipWith_self]
    refine List.map_congr_left fun bound _ => ?_
    by_cases hm : m ≤ bound <;> simp [List.countP_append, hm, UInt64.ofNat_add]
  show Histogram.mk _ _ _ = Histogram.mk _ _ _
  rw [Histogram.mk.injEq]
  exact ⟨hcount, hsum, hbuckets⟩

theorem foldl_observe (ms : List UInt64) : ms.foldl observe {} = summary ms := by
  induction ms using List.reverseRecOn with
  | nil => rfl
  | append_singleton ms m ih =>
    rw [List.foldl_append, ih, List.foldl_cons, List.foldl_nil, observe_summary]

theorem summary_perm {ms ns : List UInt64} (h : ms.Perm ns) : summary ms = summary ns := by
  rw [← foldl_observe, ← foldl_observe]
  exact h.foldl_eq' (fun m _ n _ g => observe_comm g m n) _

/-- What a histogram holds, in numbers that do not wrap around: all of it is exact but the
sum. -/
theorem toNat_summary {ms : List UInt64} (h : ms.length < UInt64.size) :
    (summary ms).buckets.map UInt64.toNat =
      bounds.map (fun bound => (ms.map UInt64.toNat).countP (· ≤ bound.toNat)) ∧
    (summary ms).count.toNat = ms.length ∧
    (summary ms).sum.toNat = (ms.map UInt64.toNat).sum % UInt64.size := by
  refine ⟨?_, UInt64.toNat_ofNat_of_lt h, ?_⟩
  · simp only [summary, List.map_map, List.countP_map]
    refine List.map_congr_left fun bound _ => ?_
    exact UInt64.toNat_ofNat_of_lt (Nat.lt_of_le_of_lt List.countP_le_length h)
  · show (ms.foldl (fun n m => n + m) 0).toNat = _
    rw [toNat_foldl_add (fun m => m), UInt64.toNat_zero, Nat.zero_add]

/-- The lines of a series, from the numbers in it. -/
theorem samples_eq (name : String) (labels : LabelSet) {h : Histogram} {values : UInt64 → Nat}
    (hbuckets : h.buckets.map UInt64.toNat = bounds.map values) :
    samples name (labels, h) =
      bounds.map (fun bound =>
        ⟨name ++ "_bucket", labels ++ [("le", toString bound.toNat)], values bound⟩) ++
      [⟨name ++ "_bucket", labels ++ [("le", "+Inf")], h.count.toNat⟩,
        ⟨name ++ "_sum", labels, h.sum.toNat⟩, ⟨name ++ "_count", labels, h.count.toNat⟩] := by
  have hzip : List.zipWith (fun bound n =>
        (⟨name ++ "_bucket", labels ++ [("le", toString bound.toNat)], n.toNat⟩ : Sample))
      bounds h.buckets =
      List.zipWith (fun bound n => ⟨name ++ "_bucket", labels ++ [("le", toString bound.toNat)], n⟩)
        bounds (h.buckets.map UInt64.toNat) :=
    List.zipWith_map_right.symm
  rw [samples, hzip, hbuckets, List.zipWith_map_right, List.zipWith_self]

/-- Buckets grow with their bounds, and no bucket is above the count. -/
theorem countP_bounds_pairwise (ms : List Nat) :
    (bounds.map (fun bound => ms.countP (· ≤ bound.toNat)) ++ [ms.length]).Pairwise (· ≤ ·) := by
  have hsorted : bounds.Pairwise (· ≤ ·) := by decide
  refine List.pairwise_append.mpr ⟨List.pairwise_map.mpr ?_, List.pairwise_singleton _ _, ?_⟩
  · refine hsorted.imp fun {a b} hab => List.countP_mono_left fun m _ hm => ?_
    exact decide_eq_true (Nat.le_trans (of_decide_eq_true hm) (UInt64.le_iff_toNat_le.mp hab))
  · intro n hn k hk
    obtain ⟨bound, _, rfl⟩ := List.mem_map.mp hn
    rw [List.mem_singleton.mp hk]
    exact List.countP_le_length

end Histogram

/-! ### Any series -/

namespace Histograms

/-- The histograms after some observations with fresh ones. -/
def observed (obs : List Observation) : Histograms :=
  obs.foldl (fun h o => h.observe o.labels o.duration) {}

theorem family_observed (obs : List Observation) :
    (observed obs).family = Family.updates (fun o : Observation => .ofList o.labels) {}
      (fun o h => h.observe o.duration.micros) [] obs := by
  have hfoldl (h : Histograms) : (obs.foldl (fun h o => h.observe o.labels o.duration) h).family =
      Family.updates (fun o : Observation => .ofList o.labels) {}
        (fun o h => h.observe o.duration.micros) h.family obs := by
    induction obs generalizing h with
    | nil => rfl
    | cons o obs ih =>
      rw [List.foldl_cons, ih]
      rfl
  exact hfoldl {}

theorem get_observed (obs : List Observation) (labels : List Label) :
    (observed obs).get labels =
      .summary ((Observation.under labels obs).map fun o => o.duration.micros) := by
  rw [get, family_observed, Family.getD_updates, LabelSet.filter_ofList_eq,
    ← Histogram.foldl_observe, List.foldl_map]
  rfl

/-- What a series holds, in numbers. -/
theorem toNat_get_observed {obs : List Observation} (hfew : obs.length < UInt64.size)
    (labels : List Label) {ms : List Nat}
    (hms : (Observation.under labels obs).map Observation.micros = ms) :
    ((observed obs).get labels).buckets.map UInt64.toNat =
      bounds.map (fun bound => ms.countP (· ≤ bound.toNat)) ∧
    ((observed obs).get labels).count.toNat = ms.length ∧
    ((observed obs).get labels).sum.toNat = ms.sum % UInt64.size := by
  have hwords :
      ((Observation.under labels obs).map fun o => o.duration.micros).map UInt64.toNat = ms := by
    rw [← hms, List.map_map]
    refine List.map_congr_left fun o _ => ?_
    rw [Function.comp_apply, o.toNat_micros]
  have hlength : ((Observation.under labels obs).map fun o => o.duration.micros).length <
      UInt64.size := by
    rw [List.length_map]
    exact Nat.lt_of_le_of_lt (List.length_filter_le ..) hfew
  obtain ⟨hbuckets, hcount, hsum⟩ := Histogram.toNat_summary hlength
  rw [get_observed, hbuckets, hcount, hsum, hwords, ← hms, List.length_map, List.length_map]
  exact ⟨rfl, rfl, rfl⟩

/-- The lines of a series that was observed stand together in the text. -/
theorem lines_infix_observed {obs : List Observation} {labels : List Label}
    (h : ∃ o ∈ obs, o.labels.Perm labels) (name : String) :
    Histogram.lines name (.ofList labels, (observed obs).get labels) <:+:
      (observed obs).lines name := by
  obtain ⟨o, ho, hperm⟩ := h
  have hseries : LabelSet.ofList labels ∈ Family.series (observed obs).family := by
    rw [family_observed, Family.mem_series_updates]
    exact .inl ⟨o, ho, LabelSet.ofList_eq_iff.mpr hperm⟩
  have hnodup : (Family.series (observed obs).family).Nodup := by
    rw [family_observed]
    exact Family.nodup_series_updates _ _ _ _ .nil
  obtain ⟨g, hg⟩ := Option.isSome_iff_exists.mp ((Family.mem_series_iff_get? _ _).mp hseries)
  have hmem : (LabelSet.ofList labels, (observed obs).get labels) ∈ (observed obs).family := by
    rw [Family.mem_iff_get? hnodup, get, hg]
    rfl
  obtain ⟨before, after, hsplit⟩ := List.append_of_mem hmem
  refine ⟨("# TYPE " ++ name ++ " histogram") :: before.flatMap (Histogram.lines name),
    after.flatMap (Histogram.lines name), ?_⟩
  rw [lines, hsplit]
  simp

/-- **Histograms are cumulative and complete.** After fewer observations than a word can
count, a series holds for each bound how many of the durations observed under permutations
of its labels are within it, how many there are and their sum, which may wrap around; so
the buckets grow with their bounds up to the count. These numbers are what the lines of the
series say. Observations under other labels and the order of observations make no
difference. -/
theorem observed_cumulative (obs : List Observation) (hfew : obs.length < UInt64.size)
    (labels : List Label) :
    let h := (observed obs).get labels
    let ms := (Observation.under labels obs).map Observation.micros
    h.buckets.map UInt64.toNat = bounds.map (fun bound => ms.countP (· ≤ bound.toNat)) ∧
    h.count.toNat = ms.length ∧
    h.sum.toNat = ms.sum % UInt64.size ∧
    (h.buckets.map UInt64.toNat ++ [h.count.toNat]).Pairwise (· ≤ ·) ∧
    ((∃ o ∈ obs, o.labels.Perm labels) → ∀ name,
      bounds.map (fun bound => Sample.text ⟨name ++ "_bucket",
        .ofList labels ++ [("le", toString bound.toNat)], ms.countP (· ≤ bound.toNat)⟩) ++
      [Sample.text ⟨name ++ "_bucket", .ofList labels ++ [("le", "+Inf")], ms.length⟩,
        Sample.text ⟨name ++ "_sum", .ofList labels, ms.sum % UInt64.size⟩,
        Sample.text ⟨name ++ "_count", .ofList labels, ms.length⟩] <:+: (observed obs).lines name) ∧
    (∀ others, (Observation.under labels obs).Perm (Observation.under labels others) →
      (observed others).get labels = h) ∧
    ∀ others, obs.Perm others → (observed obs).family.Perm (observed others).family := by
  intro h ms
  obtain ⟨hbuckets, hcount, hsum⟩ := toNat_get_observed hfew labels (rfl : _ = ms)
  refine ⟨hbuckets, hcount, hsum, ?_, ?_, ?_, ?_⟩
  · rw [hbuckets, hcount]
    exact Histogram.countP_bounds_pairwise ms
  · intro hseen name
    have hlines := lines_infix_observed hseen name
    rw [Histogram.lines_eq, Histogram.samples_eq name _ hbuckets, hcount, hsum, List.map_append,
      List.map_map] at hlines
    exact hlines
  · intro others hperm
    rw [get_observed others, ← Histogram.summary_perm (hperm.map _), ← get_observed]
  · intro others hperm
    rw [family_observed, family_observed]
    exact Family.updates_perm _ _ _ (fun o p g => g.observe_comm _ _) hperm

/-- Ten microseconds are within the first bound, and an age is within none: it counts as the
largest word, and the sum wraps around. -/
theorem observed_cumulative_saturated :
    let obs : List Observation := [⟨[("profile", "a"), ("le", "10")], ⟨0, 10999⟩⟩,
      ⟨[("profile", "b")], ⟨0, 0⟩⟩, ⟨[("le", "10"), ("profile", "a")], ⟨18446744073709551615, 0⟩⟩]
    let h := (observed obs).get [("profile", "a"), ("le", "10")]
    obs.length < UInt64.size ∧ h.buckets.map UInt64.toNat = [1, 1, 1, 1, 1, 1, 1, 1, 1] ∧
      h.count.toNat = 2 ∧ h.sum.toNat = 9 ∧
      (observed obs).family.Perm (observed obs.reverse).family := by
  intro obs h
  have hfew : obs.length < UInt64.size := by decide
  obtain ⟨hbuckets, hcount, hsum, _, _, _, horder⟩ :=
    observed_cumulative obs hfew [("profile", "a"), ("le", "10")]
  refine ⟨hfew, hbuckets.trans ?_, hcount.trans ?_, hsum.trans ?_, ?_⟩
  · decide
  · decide
  · decide
  · exact horder obs.reverse (List.reverse_perm obs).symm

end Histograms

end ScriptGate.Metrics
