import ScriptGate.Metrics.Registry
import ScriptGate.Proofs.Metrics.Series

/-! The registry after any list of traces.

A trace is counted once, in one series of one family (`Trace.series`). So after any traces
the count of a series has gone up by the number of those that belong to it
(`Registry.count_foldl_record`), and no series is there that neither was before nor has
such a trace (`Registry.mem_series_foldl_record`). -/
namespace ScriptGate.Metrics

/-- The families of the registry. -/
inductive Metric where
  | checks | rejections | requestErrors | checkDuration
  deriving DecidableEq, Repr

namespace Trace

@[simp]
def metric : Trace → Metric
  | .duration .. => .checkDuration
  | .check .. => .checks
  | .rejection .. => .rejections
  | .requestError .. => .requestErrors

@[simp]
def labels : Trace → List Label
  | .duration profile _ => [("profile", profile)]
  | .check profile verdict => [("profile", profile), ("verdict", verdict.label)]
  | .rejection profile kind => [("profile", profile), ("kind", kind)]
  | .requestError profile code => [("profile", profile), ("code", code)]

/-- The family and the label set that a trace is counted under. -/
def series (t : Trace) : Metric × LabelSet := (t.metric, .ofList t.labels)

end Trace

theorem Counter.getD_increment (c : Counter) (labels : List Label) (key : LabelSet) :
    ((c.increment labels).family.get? key).getD 0 =
      (c.family.get? key).getD 0 + if LabelSet.ofList labels = key then 1 else 0 := by
  show ((c.family.update (.ofList labels) 0 (· + 1)).get? key).getD 0 = _
  rw [Family.get?_update]
  by_cases h : LabelSet.ofList labels = key <;> simp [h]

theorem Histograms.count_observe (h : Histograms) (labels : List Label) (d : Duration)
    (key : LabelSet) :
    (((h.observe labels d).family.get? key).getD {}).count =
      ((h.family.get? key).getD {}).count + if LabelSet.ofList labels = key then 1 else 0 := by
  show (((h.family.update (.ofList labels) {} (·.observe d.micros)).get? key).getD {}).count = _
  rw [Family.get?_update]
  by_cases hk : LabelSet.ofList labels = key <;> simp [hk, Histogram.observe]

namespace Registry

/-- How often a series was counted in: the value of a counter, the count of a histogram. -/
def count (r : Registry) (m : Metric) (key : LabelSet) : UInt64 :=
  match m with
  | .checks => (r.checks.family.get? key).getD 0
  | .rejections => (r.rejections.family.get? key).getD 0
  | .requestErrors => (r.requestErrors.family.get? key).getD 0
  | .checkDuration => ((r.checkDuration.family.get? key).getD {}).count

/-- The label sets of a family. -/
def series (r : Registry) : Metric → List LabelSet
  | .checks => Family.series r.checks.family
  | .rejections => Family.series r.rejections.family
  | .requestErrors => Family.series r.requestErrors.family
  | .checkDuration => Family.series r.checkDuration.family

/-! ### One trace -/

theorem count_record (r : Registry) (t : Trace) (m : Metric) (key : LabelSet) :
    (r.record t).count m key = r.count m key + if t.series = (m, key) then 1 else 0 := by
  cases t <;> cases m <;>
    simp only [record, count, Counter.getD_increment, Histograms.count_observe] <;>
    simp [Trace.series]

/-- All the rejections of a label. -/
theorem total_record (r : Registry) (t : Trace) (label : Label) :
    (r.record t).rejections.total label =
      r.rejections.total label + if t.metric = .rejections ∧ label ∈ t.labels then 1 else 0 := by
  cases t <;> simp [record, Counter.total_increment]

theorem mem_series_record (r : Registry) (t : Trace) (m : Metric) (key : LabelSet) :
    key ∈ (r.record t).series m ↔ t.series = (m, key) ∨ key ∈ r.series m := by
  cases t <;> cases m <;>
    simp [record, series, Trace.series, Counter.increment, Counter.add, Histograms.observe,
      Family.mem_series_update, eq_comm]

theorem nodup_series_record (r : Registry) (t : Trace) (m : Metric) (h : (r.series m).Nodup) :
    ((r.record t).series m).Nodup := by
  cases t <;> cases m <;> first
    | exact h
    | exact Family.nodup_series_update _ _ _ h

/-! ### Any traces -/

/-- What goes up by one at some traces, and stays at the others, goes up by their number. -/
theorem foldl_record_eq_add (view : Registry → UInt64) (p : Trace → Bool)
    (h : ∀ r t, view (r.record t) = view r + if p t then 1 else 0) (r : Registry)
    (ts : List Trace) : view (ts.foldl record r) = view r + .ofNat (ts.countP p) := by
  induction ts generalizing r with
  | nil => simp
  | cons t ts ih =>
    rw [List.foldl_cons, ih, h, List.countP_cons, UInt64.ofNat_add]
    cases p t <;> grind

theorem count_foldl_record (r : Registry) (ts : List Trace) (m : Metric) (key : LabelSet) :
    (ts.foldl record r).count m key =
      r.count m key + .ofNat ((ts.map Trace.series).count (m, key)) := by
  have hstep (r : Registry) (t : Trace) :
      (r.record t).count m key = r.count m key + if t.series == (m, key) then 1 else 0 := by
    simp only [count_record, beq_iff_eq]
  rw [List.count, List.countP_map]
  exact foldl_record_eq_add (·.count m key) (·.series == (m, key)) hstep r ts

theorem mem_series_foldl_record (r : Registry) (ts : List Trace) (m : Metric) (key : LabelSet) :
    key ∈ (ts.foldl record r).series m ↔ (m, key) ∈ ts.map Trace.series ∨ key ∈ r.series m := by
  induction ts generalizing r with
  | nil => simp
  | cons t ts ih =>
    rw [List.foldl_cons, ih, mem_series_record, List.map_cons, List.mem_cons, or_assoc,
      or_left_comm, eq_comm]

theorem nodup_series_foldl_record (r : Registry) (ts : List Trace) (m : Metric)
    (h : (r.series m).Nodup) : ((ts.foldl record r).series m).Nodup := by
  induction ts generalizing r with
  | nil => exact h
  | cons t ts ih => exact ih _ (nodup_series_record r t m h)

end Registry

end ScriptGate.Metrics
