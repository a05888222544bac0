import Mathlib.Data.List.Basic
import ScriptGate.Proofs.Metrics.Contents
import ScriptGate.Proofs.Metrics.Recording

/-! What the published text says about the registry: all of it.

The text is read line by line (`pieces`). A line that is a sample's belongs to the family
that its name says; the other lines are headings, the draining flag and further gauges,
which come last. So the registry is put together again from the text (`Registry.ofText`):
the series of a counter from its samples, those of the histograms from the counts, with the
sum and the buckets looked up under the same labels. No value of a label can be taken for
anything else, since lines are read as the samples they were written for. -/
namespace ScriptGate.Metrics

namespace Metric

/-- The families in the order of the text. -/
def all : List Metric := [.checks, .rejections, .requestErrors, .checkDuration]

/-- The name a family is written under. -/
def name : Metric → String
  | .checks => "rubyguard_checks_total"
  | .rejections => "rubyguard_rejections_total"
  | .requestErrors => "rubyguard_request_errors_total"
  | .checkDuration => "rubyguard_check_duration_micros"

def heading : Metric → String
  | .checkDuration => "# TYPE " ++ checkDuration.name ++ " histogram"
  | m => "# TYPE " ++ m.name ++ " counter"

/-- The names of a family's samples. -/
def sampleNames : Metric → List String
  | .checkDuration =>
    [checkDuration.name ++ "_bucket", checkDuration.name ++ "_sum", checkDuration.name ++ "_count"]
  | m => [m.name]

theorem chars_of_mem (m : Metric) {name : String} (h : name ∈ m.sampleNames) :
    '{' ∉ name.toList ∧ '\n' ∉ name.toList ∧ name.toList.head? = some 'r' := by
  revert name
  cases m <;> decide

end Metric

/-! ### Reading -/

/-- A text cut at the ends of its lines. What stands after the last of them is a piece too. -/
def pieces (text : String) : List String := (text.toList.splitOn '\n').map String.ofList

def isHeading (line : String) : Bool := "# TYPE ".toList.isPrefixOf line.toList

def Sample.valueOf (name : String) (labels : LabelSet) (samples : List Sample) : UInt64 :=
  .ofNat (((samples.find? fun s => s.name == name && s.labels == labels).map Sample.value).getD 0)

def Counter.ofSamples (name : String) (samples : List Sample) : Counter :=
  ⟨(samples.filter fun s => s.name == name).map fun s => (s.labels, .ofNat s.value)⟩

def Histograms.ofSamples (name : String) (samples : List Sample) : Histograms :=
  ⟨(samples.filter fun s => s.name == name ++ "_count").map fun s => (s.labels,
    { count := .ofNat s.value
      sum := Sample.valueOf (name ++ "_sum") s.labels samples
      buckets := bounds.map fun bound =>
        Sample.valueOf (name ++ "_bucket") (s.labels ++ [("le", toString bound.toNat)]) samples })⟩

namespace Registry

def drainingHeading : String := "# TYPE rubyguard_draining gauge"

/-- The registry that lines tell of, in any order. -/
def ofLines (lines : List String) : Registry :=
  let samples := lines.filterMap Sample.read?
  { checks := .ofSamples Metric.checks.name samples
    rejections := .ofSamples Metric.rejections.name samples
    requestErrors := .ofSamples Metric.requestErrors.name samples
    checkDuration := .ofSamples Metric.checkDuration.name samples
    draining := lines.contains "rubyguard_draining 1" }

/-- The registry that a text tells of: up to the draining flag, since what follows is not
the registry's own. -/
def ofText (text : String) : Registry :=
  let lines := pieces text
  ofLines (lines.takeWhile (· != drainingHeading) ++ (lines.dropWhile (· != drainingHeading)).take 2)

end Registry

/-! ### What is written, as samples -/

def Counter.samples (name : String) (c : Counter) : List Sample :=
  c.family.map fun s => ⟨name, s.1, s.2.toNat⟩

theorem Counter.lines_eq (name : String) (c : Counter) :
    c.lines name = ("# TYPE " ++ name ++ " counter") :: (c.samples name).map Sample.text := by
  rw [lines, samples, List.map_map]
  rfl

theorem Counter.filter_samples (name other : String) (c : Counter) :
    (c.samples name).filter (fun s => s.name == other) =
      if name = other then c.samples name else [] := by
  have hname : ∀ s ∈ c.samples name, s.name = name := by
    intro s hs
    obtain ⟨t, _, rfl⟩ := List.mem_map.mp hs
    rfl
  split
  · next h => exact List.filter_eq_self.mpr fun s hs => by simp [hname s hs, h]
  · next h => exact List.filter_eq_nil_iff.mpr fun s hs => by simp [hname s hs, h]

def Histograms.samples (name : String) (h : Histograms) : List Sample :=
  h.family.flatMap (Histogram.samples name)

theorem Histograms.lines_eq (name : String) (h : Histograms) :
    h.lines name = ("# TYPE " ++ name ++ " histogram") :: (h.samples name).map Sample.text := by
  rw [lines, samples, List.map_flatMap, ← funext (Histogram.lines_eq name)]

theorem toString_inj {m n : Nat} (h : toString m = toString n) : m = n := by
  rw [← ofDigitChars_toString m, h, ofDigitChars_toString]

theorem toString_ne_inf (n : Nat) : toString n ≠ "+Inf" := by
  intro h
  have hplus : '+' ∈ (toString n).toList := by
    rw [h]
    decide
  exact absurd (isDigit_of_mem_toString hplus) (by decide)

section Histogram
variable {name : String} {key : LabelSet} {h : Histogram} {values : UInt64 → UInt64}
  (hb : h.buckets = bounds.map values)
include hb

/-- The samples of a series, one bucket for each bound. -/
theorem Histogram.samples_of_buckets : samples name (key, h) =
    bounds.map (fun bound =>
      ⟨name ++ "_bucket", key ++ [("le", toString bound.toNat)], (values bound).toNat⟩) ++
    [⟨name ++ "_bucket", key ++ [("le", "+Inf")], h.count.toNat⟩,
      ⟨name ++ "_sum", key, h.sum.toNat⟩, ⟨name ++ "_count", key, h.count.toNat⟩] := by
  refine samples_eq name key ?_
  rw [hb, List.map_map]
  rfl

theorem Histogram.mem_samples {x : Sample} (hx : x ∈ samples name (key, h)) :
    (x.name = name ++ "_bucket" ∧ ∃ bound, x.labels = key ++ [("le", bound)]) ∨
    ((x.name = name ++ "_sum" ∨ x.name = name ++ "_count") ∧ x.labels = key) := by
  rw [samples_of_buckets hb, List.mem_append, List.mem_map] at hx
  simp only [List.mem_cons, List.not_mem_nil, or_false] at hx
  rcases hx with ⟨bound, _, rfl⟩ | rfl | rfl | rfl
  · exact .inl ⟨rfl, _, rfl⟩
  · exact .inl ⟨rfl, _, rfl⟩
  · exact .inr ⟨.inl rfl, rfl⟩
  · exact .inr ⟨.inr rfl, rfl⟩

theorem Histogram.mem_samples_sum {other : LabelSet} {n : Nat} :
    (⟨name ++ "_sum", other, n⟩ : Sample) ∈ samples name (key, h) ↔
      other = key ∧ n = h.sum.toNat := by
  rw [samples_of_buckets hb]
  simp [String.append_right_inj]

theorem Histogram.mem_samples_bucket {bound : UInt64} (hbound : bound ∈ bounds) {other : LabelSet}
    {n : Nat} :
    (⟨name ++ "_bucket", other ++ [("le", toString bound.toNat)], n⟩ : Sample) ∈
      samples name (key, h) ↔ other = key ∧ n = (values bound).toNat := by
  rw [samples_of_buckets hb, List.mem_append, List.mem_map]
  simp only [List.mem_cons, List.not_mem_nil, or_false]
  constructor
  · rintro (⟨b, _, heq⟩ | heq | heq | heq)
    · obtain ⟨_, hlabels, hn⟩ := Sample.mk.inj heq
      obtain ⟨hkey, hle⟩ := List.append_inj' hlabels rfl
      have hstring : toString b.toNat = toString bound.toNat := by simpa using hle
      obtain rfl := UInt64.toNat_inj.mp (toString_inj hstring)
      exact ⟨hkey.symm, hn.symm⟩
    · obtain ⟨_, hlabels, _⟩ := Sample.mk.inj heq
      have hle := (List.append_inj' hlabels rfl).2
      exact absurd (by simpa using hle) (toString_ne_inf bound.toNat)
    · exact absurd ((String.append_right_inj _).mp (Sample.mk.inj heq).1) (by decide)
    · exact absurd ((String.append_right_inj _).mp (Sample.mk.inj heq).1) (by decide)
  · rintro ⟨rfl, rfl⟩
    exact .inl ⟨bound, hbound, rfl⟩

theorem Histogram.filter_samples_count :
    (samples name (key, h)).filter (fun s => s.name == name ++ "_count") =
      [⟨name ++ "_count", key, h.count.toNat⟩] := by
  rw [samples_of_buckets hb]
  simp [String.append_right_inj]

end Histogram

/-! ### Families from their samples -/

theorem Family.eq_of_mem {α : Type} {f : Family α} (h : (series f).Nodup) {s t : LabelSet × α}
    (hs : s ∈ f) (ht : t ∈ f) (hkey : s.1 = t.1) : s = t := by
  have hget := (mem_iff_get? h s.1 s.2).mp hs
  rw [hkey, (mem_iff_get? h t.1 t.2).mp ht] at hget
  exact Prod.ext hkey (Option.some.inj hget).symm

theorem Counter.ofSamples_perm {name : String} {c : Counter} {samples : List Sample}
    (h : (samples.filter fun s => s.name == name).Perm (c.samples name)) :
    (ofSamples name samples).family.Perm c.family := by
  refine (h.map _).trans (.of_eq ?_)
  rw [Counter.samples, List.map_map]
  simp [Function.comp_def]

/-- A value is found under its name and labels if no other is there. -/
theorem Sample.valueOf_eq {name : String} {labels : LabelSet} {samples : List Sample} {n : UInt64}
    (hmem : ⟨name, labels, n.toNat⟩ ∈ samples)
    (hone : ∀ m, ⟨name, labels, m⟩ ∈ samples → m = n.toNat) : valueOf name labels samples = n := by
  have hsome : (samples.find? fun s => s.name == name && s.labels == labels).isSome :=
    List.find?_isSome.mpr ⟨_, hmem, by simp⟩
  obtain ⟨x, hx⟩ := Option.isSome_iff_exists.mp hsome
  have hx' := List.find?_some hx
  simp only [Bool.and_eq_true, beq_iff_eq] at hx'
  obtain ⟨rfl, rfl⟩ := hx'
  rw [valueOf, hx]
  show UInt64.ofNat x.value = n
  rw [hone x.value (List.mem_of_find?_eq_some hx), UInt64.ofNat_toNat]

namespace Histograms

variable {name : String} {h : Histograms}

theorem filter_samples_count (hb : ∀ s ∈ h.family, s.2.Bucketed) :
    (h.samples name).filter (fun s => s.name == name ++ "_count") =
      h.family.map fun s => ⟨name ++ "_count", s.1, s.2.count.toNat⟩ := by
  obtain ⟨f⟩ := h
  change ∀ s ∈ f, s.2.Bucketed at hb
  rw [samples]
  induction f with
  | nil => rfl
  | cons s rest ih =>
    obtain ⟨⟨values, hs⟩, hrest⟩ := List.forall_mem_cons.mp hb
    rw [List.flatMap_cons, List.filter_append, Histogram.filter_samples_count hs, ih hrest]
    rfl

/-- The histograms are found in any samples among which there are theirs and no other under
their names. -/
theorem ofSamples_perm (hclean : Family.Clean h.family) (hb : ∀ s ∈ h.family, s.2.Bucketed)
    {samples : List Sample}
    (hcount : (samples.filter fun s => s.name == name ++ "_count").Perm
      ((h.samples name).filter fun s => s.name == name ++ "_count"))
    (hmem : ∀ x : Sample, x.name = name ++ "_sum" ∨ x.name = name ++ "_bucket" →
      (x ∈ samples ↔ x ∈ h.samples name)) :
    (ofSamples name samples).family.Perm h.family := by
  refine (hcount.map _).trans (.of_eq ?_)
  rw [filter_samples_count hb, List.map_map]
  refine (List.map_congr_left fun s hs => ?_).trans (List.map_id _)
  obtain ⟨values, hvalues⟩ := hb s hs
  have hsum : Sample.valueOf (name ++ "_sum") s.1 samples = s.2.sum := by
    refine Sample.valueOf_eq ?_ fun m hm => ?_
    · refine (hmem _ (.inl rfl)).mpr (List.mem_flatMap.mpr ⟨s, hs, ?_⟩)
      exact (Histogram.mem_samples_sum hvalues).mpr ⟨rfl, rfl⟩
    · obtain ⟨t, ht, hin⟩ := List.mem_flatMap.mp ((hmem _ (.inl rfl)).mp hm)
      obtain ⟨_, hother⟩ := hb t ht
      obtain ⟨hkey, rfl⟩ := (Histogram.mem_samples_sum hother).mp hin
      rw [Family.eq_of_mem hclean.nodup hs ht hkey]
  have hbucket : ∀ bound ∈ bounds, Sample.valueOf (name ++ "_bucket")
      (s.1 ++ [("le", toString bound.toNat)]) samples = values bound := by
    intro bound hbound
    refine Sample.valueOf_eq ?_ fun m hm => ?_
    · refine (hmem _ (.inr rfl)).mpr (List.mem_flatMap.mpr ⟨s, hs, ?_⟩)
      exact (Histogram.mem_samples_bucket hvalues hbound).mpr ⟨rfl, rfl⟩
    · obtain ⟨t, ht, hin⟩ := List.mem_flatMap.mp ((hmem _ (.inr rfl)).mp hm)
      obtain ⟨others, hothers⟩ := hb t ht
      obtain ⟨hkey, rfl⟩ := (Histogram.mem_samples_bucket hothers hbound).mp hin
      obtain rfl := Family.eq_of_mem hclean.nodup hs ht hkey
      rw [hvalues] at hothers
      rw [List.map_inj_left.mp hothers bound hbound]
  have hbuckets : (bounds.map fun bound => Sample.valueOf (name ++ "_bucket")
      (s.1 ++ [("le", toString bound.toNat)]) samples) = s.2.buckets := by
    rw [hvalues]
    exact List.map_congr_left hbucket
  simp only [Function.comp_apply, hsum, hbuckets, UInt64.ofNat_toNat]
  rfl

theorem length_samples (hb : ∀ s ∈ h.family, s.2.Bucketed) :
    (h.samples name).length = 12 * h.family.length := by
  have htwelve : ∀ s ∈ h.family, (Histogram.samples name s).length = 12 := by
    intro s hs
    obtain ⟨_, hvalues⟩ := hb s hs
    rw [show s = (s.1, s.2) from rfl, Histogram.samples_of_buckets hvalues]
    simp [bounds]
  rw [samples, List.length_flatMap, List.map_congr_left htwelve]
  simp [Nat.mul_comm]

end Histograms

/-! ### The registry from its lines -/

theorem Metric.read?_heading (m : Metric) : Sample.read? m.heading = none := by
  cases m <;> decide

namespace Registry

def samplesOf (r : Registry) : Metric → List Sample
  | .checks => r.checks.samples Metric.checks.name
  | .rejections => r.rejections.samples Metric.rejections.name
  | .requestErrors => r.requestErrors.samples Metric.requestErrors.name
  | .checkDuration => r.checkDuration.samples Metric.checkDuration.name

def samples (r : Registry) : List Sample := Metric.all.flatMap r.samplesOf

/-- The families, each under its heading. -/
def seriesLines (r : Registry) : List String :=
  Metric.all.flatMap fun m => m.heading :: (r.samplesOf m).map Sample.text

def drainingLine (r : Registry) : String := "rubyguard_draining " ++ if r.draining then "1" else "0"

theorem drainingLine_eq (r : Registry) :
    r.drainingLine = if r.draining then "rubyguard_draining 1" else "rubyguard_draining 0" := by
  unfold drainingLine
  split <;> simp

def gauge (e : String × Nat) : String := e.1 ++ " " ++ toString e.2

theorem lines_eq (r : Registry) (extra : List (String × Nat)) :
    r.lines extra = r.seriesLines ++ drainingHeading :: r.drainingLine :: extra.map gauge := by
  simp only [lines, Counter.lines_eq, Histograms.lines_eq, seriesLines, Metric.all,
    List.flatMap_cons, List.flatMap_nil, List.append_nil, List.append_assoc, List.cons_append,
    List.nil_append]
  rfl

/-- The samples of a family have its names, and labels with names. -/
theorem names_of_mem {r : Registry} (hr : r.Clean) {m : Metric} {s : Sample}
    (hs : s ∈ r.samplesOf m) : s.name ∈ m.sampleNames ∧ ∀ l ∈ s.labels, Label.isName l.1 := by
  have hcounter {c : Counter} (hc : Family.Clean c.family) {name : String}
      (hs : s ∈ c.samples name) : s.name ∈ [name] ∧ ∀ l ∈ s.labels, Label.isName l.1 := by
    obtain ⟨t, ht, rfl⟩ := List.mem_map.mp hs
    exact ⟨List.mem_singleton_self _, hc.names t.1 (List.mem_map_of_mem ht)⟩
  cases m with
  | checks => exact hcounter hr.checks hs
  | rejections => exact hcounter hr.rejections hs
  | requestErrors => exact hcounter hr.requestErrors hs
  | checkDuration =>
    obtain ⟨t, ht, hmem⟩ := List.mem_flatMap.mp hs
    obtain ⟨_, hvalues⟩ := hr.bucketed t ht
    have hnames := hr.checkDuration.names t.1 (List.mem_map_of_mem ht)
    rcases Histogram.mem_samples hvalues hmem with ⟨hname, bound, hl⟩ | ⟨hname, hl⟩
    · refine ⟨by simp [Metric.sampleNames, hname], ?_⟩
      rw [hl, List.forall_mem_append]
      exact ⟨hnames, List.forall_mem_singleton.mpr (show Label.isName "le" by decide)⟩
    · refine ⟨?_, hl ▸ hnames⟩
      rcases hname with hname | hname <;> simp [Metric.sampleNames, hname]

/-- Samples under a name that only one family has are that family's. -/
theorem mem_samples_iff {r : Registry} (hr : r.Clean) {m : Metric} {s : Sample}
    (hm : ∀ other, s.name ∈ other.sampleNames → other = m) :
    s ∈ r.samples ↔ s ∈ r.samplesOf m := by
  rw [samples, List.mem_flatMap]
  constructor
  · rintro ⟨other, _, hs⟩
    rwa [← hm other (names_of_mem hr hs).1]
  · intro hs
    exact ⟨m, by cases m <;> decide, hs⟩

theorem filter_samples {r : Registry} (hr : r.Clean) {m : Metric} {name : String}
    (hm : ∀ other, name ∈ other.sampleNames → other = m) :
    r.samples.filter (fun s => s.name == name) =
      (r.samplesOf m).filter (fun s => s.name == name) := by
  have hnil : ∀ other, other ≠ m → (r.samplesOf other).filter (fun s => s.name == name) = [] := by
    intro other hother
    refine List.filter_eq_nil_iff.mpr fun s hs hname => hother (hm other ?_)
    rw [← eq_of_beq hname]
    exact (names_of_mem hr hs).1
  rw [samples, Metric.all]
  cases m <;> simp [hnil]

/-- The registry is what any samples that are its own, in any order, tell of it. -/
theorem ofSamples_same {r : Registry} (hr : r.Clean) {samples : List Sample}
    (h : samples.Perm r.samples) :
    (Counter.ofSamples Metric.checks.name samples).family.Perm r.checks.family ∧
    (Counter.ofSamples Metric.rejections.name samples).family.Perm r.rejections.family ∧
    (Counter.ofSamples Metric.requestErrors.name samples).family.Perm r.requestErrors.family ∧
    (Histograms.ofSamples Metric.checkDuration.name samples).family.Perm
      r.checkDuration.family := by
  have hcounter (m : Metric) {c : Counter} (hm : ∀ other, m.name ∈ other.sampleNames → other = m)
      (hc : r.samplesOf m = c.samples m.name) :
      (Counter.ofSamples m.name samples).family.Perm c.family := by
    refine Counter.ofSamples_perm ((h.filter _).trans (.of_eq ?_))
    rw [filter_samples hr hm, hc, Counter.filter_samples, if_pos rfl]
  refine ⟨hcounter .checks (by rintro (_ | _) <;> decide) rfl,
    hcounter .rejections (by rintro (_ | _) <;> decide) rfl,
    hcounter .requestErrors (by rintro (_ | _) <;> decide) rfl,
    Histograms.ofSamples_perm hr.checkDuration hr.bucketed ?_ ?_⟩
  · refine (h.filter _).trans (.of_eq ?_)
    exact filter_samples hr (m := .checkDuration) (by rintro (_ | _) <;> decide)
  · intro x hx
    refine h.mem_iff.trans (mem_samples_iff hr (m := .checkDuration) fun other hother => ?_)
    rcases hx with hx | hx <;> rw [hx] at hother <;> revert hother <;> cases other <;> decide

theorem readable_of_mem {r : Registry} (hr : r.Clean) {m : Metric} {s : Sample}
    (hs : s ∈ r.samplesOf m) : s.Readable where
  name := (Metric.chars_of_mem m (names_of_mem hr hs).1).1
  labels := (names_of_mem hr hs).2

theorem filterMap_seriesLines {r : Registry} (hr : r.Clean) :
    r.seriesLines.filterMap Sample.read? = r.samples := by
  rw [seriesLines, List.filterMap_flatMap, samples]
  refine congrArg (Metric.all.flatMap ·) (funext fun m => ?_)
  rw [List.filterMap_cons_none m.read?_heading, List.filterMap_map]
  refine (List.filterMap_congr fun s hs => ?_).trans List.filterMap_some
  exact Sample.read?_text (readable_of_mem hr hs)

/-- A line of the families is a heading or a sample. -/
theorem not_mem_seriesLines {r : Registry} (hr : r.Clean) {line : String}
    (hread : Sample.read? line = none) (hheading : ∀ m, line ≠ Metric.heading m) :
    line ∉ r.seriesLines := by
  intro hmem
  obtain ⟨m, _, hline⟩ := List.mem_flatMap.mp hmem
  rcases List.mem_cons.mp hline with rfl | hline
  · exact hheading m rfl
  · obtain ⟨s, hs, rfl⟩ := List.mem_map.mp hline
    rw [Sample.read?_text (readable_of_mem hr hs)] at hread
    contradiction

theorem drainingHeading_not_mem {r : Registry} (hr : r.Clean) :
    drainingHeading ∉ r.seriesLines :=
  not_mem_seriesLines hr (by decide)
    (by rintro (_ | _) <;> simp [drainingHeading, Metric.heading, Metric.name])

theorem draining_mem_lines {r : Registry} (hr : r.Clean) :
    "rubyguard_draining 1" ∈ r.lines [] ↔ r.draining = true := by
  have hnot : "rubyguard_draining 1" ∉ r.seriesLines :=
    not_mem_seriesLines hr (by decide) (by rintro (_ | _) <;> simp [Metric.heading, Metric.name])
  rw [lines_eq, List.mem_append, drainingLine_eq]
  split <;> simp [*, drainingHeading]

/-- **The registry's own lines tell what it holds, in any order.** -/
theorem ofLines_same {r : Registry} (hr : r.Clean) {lines : List String}
    (h : lines.Perm (r.lines [])) : (ofLines lines).Same r := by
  have hsamples : (lines.filterMap Sample.read?).Perm r.samples := by
    refine (h.filterMap _).trans (.of_eq ?_)
    have hflag : Sample.read? drainingHeading = none ∧ Sample.read? r.drainingLine = none := by
      rw [drainingLine_eq]
      split <;> decide
    rw [lines_eq, List.filterMap_append, filterMap_seriesLines hr,
      List.filterMap_cons_none hflag.1, List.filterMap_cons_none hflag.2, List.map_nil,
      List.filterMap_nil, List.append_nil]
  obtain ⟨hchecks, hrejections, herrors, hdurations⟩ := ofSamples_same hr hsamples
  refine ⟨hchecks, hrejections, herrors, hdurations, ?_⟩
  rw [Bool.eq_iff_iff, ← draining_mem_lines hr, ← h.mem_iff]
  exact List.contains_iff_mem

/-! ### The lines from the text -/

/-- No line holds the end of a line. -/
theorem newline_not_mem {r : Registry} (hr : r.Clean) {extra : List (String × Nat)}
    (hextra : ∀ e ∈ extra, '\n' ∉ e.1.toList) : ∀ line ∈ r.lines extra, '\n' ∉ line.toList := by
  intro line hline
  rw [lines_eq, List.mem_append, List.mem_cons, List.mem_cons] at hline
  rcases hline with hline | rfl | rfl | hline
  · obtain ⟨m, _, hline⟩ := List.mem_flatMap.mp hline
    rcases List.mem_cons.mp hline with rfl | hline
    · cases m <;> decide
    · obtain ⟨s, hs, rfl⟩ := List.mem_map.mp hline
      exact Sample.newline_not_mem_text (readable_of_mem hr hs)
        (Metric.chars_of_mem m (names_of_mem hr hs).1).2.1
  · decide
  · rw [drainingLine_eq]
    split <;> decide
  · obtain ⟨e, he, rfl⟩ := List.mem_map.mp hline
    have hvalue : '\n' ∉ (toString e.2).toList := fun hmem =>
      absurd (isDigit_of_mem_toString hmem) (by decide)
    rw [gauge, String.toList_append, String.toList_append]
    simp only [List.mem_append, hextra e he, hvalue]
    decide

theorem pieces_join {lines : List String} (h : ∀ line ∈ lines, '\n' ∉ line.toList) :
    pieces (String.join (lines.map (· ++ "\n"))) = lines ++ [""] := by
  have hsplit : (lines.flatMap fun line => line.toList ++ ['\n']).splitOn '\n' =
      lines.map String.toList ++ [[]] := by
    induction lines with
    | nil => rfl
    | cons line rest ih =>
      obtain ⟨hline, hrest⟩ := List.forall_mem_cons.mp h
      rw [List.flatMap_cons, List.append_assoc, List.singleton_append, List.splitOn,
        List.splitOnP_append_cons_of_forall_mem (by grind) '\n' (by decide)]
      exact congrArg (line.toList :: ·) (ih hrest)
  have hjoin : (String.join (lines.map (· ++ "\n"))).toList =
      lines.flatMap fun line => line.toList ++ ['\n'] := by
    rw [String.toList_join, List.flatMap_map]
    simp
  rw [pieces, hjoin, hsplit, List.map_append, List.map_map]
  simp [Function.comp_def]

theorem pieces_render {r : Registry} (hr : r.Clean) {extra : List (String × Nat)}
    (hextra : ∀ e ∈ extra, '\n' ∉ e.1.toList) :
    pieces (r.render extra) = r.lines extra ++ [""] :=
  pieces_join (newline_not_mem hr hextra)

/-- What stands before the further gauges is cut out of the text as it was. -/
theorem ofText_render {r : Registry} (hr : r.Clean) {extra : List (String × Nat)}
    (hextra : ∀ e ∈ extra, '\n' ∉ e.1.toList) :
    ofText (r.render extra) = ofLines (r.lines []) := by
  have hpos : ∀ line ∈ r.seriesLines, (line != drainingHeading) = true := by
    intro line hline
    exact bne_iff_ne.mpr fun h => drainingHeading_not_mem hr (h ▸ hline)
  have hneg : ¬(drainingHeading != drainingHeading) = true := by simp
  -- the first line that is the flag's heading is the registry's, whatever gauges follow
  rw [ofText, pieces_render hr hextra, lines_eq r extra, lines_eq r [], List.append_assoc]
  simp only [List.cons_append]
  rw [List.takeWhile_append_of_pos hpos, List.dropWhile_append_of_pos hpos,
    List.takeWhile_cons_of_neg (p := (· != drainingHeading)) hneg,
    List.dropWhile_cons_of_neg (p := (· != drainingHeading)) hneg, List.append_nil]
  rfl

/-! ### The lines under each heading -/

theorem isHeading_text {r : Registry} (hr : r.Clean) {m : Metric} {s : Sample}
    (hs : s ∈ r.samplesOf m) : isHeading s.text = false := by
  have hhead := (Metric.chars_of_mem m (names_of_mem hr hs).1).2.2
  obtain ⟨rest, hname⟩ := List.head?_eq_some_iff.mp hhead
  rw [isHeading, Sample.toList_text, hname]
  rfl

/-- A name without a space is no heading's beginning, whatever number follows it. -/
theorem isHeading_gauge {e : String × Nat} (h : ' ' ∉ e.1.toList) : isHeading (gauge e) = false := by
  have hdigits : (toString e.2).toList.head? ≠ some 'T' := fun hhead =>
    absurd (isDigit_of_mem_toString (List.mem_of_head? hhead)) (by decide)
  rw [isHeading, gauge, String.toList_append, String.toList_append]
  generalize (toString e.2).toList = digits at hdigits
  generalize e.1.toList = name at h
  -- a heading has a space in second place, and then a letter: the one cannot be in the name,
  -- the other cannot be in the number
  match name, digits with
  | [], _ => rfl
  | [_], [] => simp [List.isPrefixOf]
  | [_], d :: _ =>
    have hd : 'T' ≠ d := fun heq => hdigits (heq ▸ rfl)
    simp [List.isPrefixOf, hd]
  | _ :: d :: _, _ =>
    have hd : ' ' ≠ d := fun heq => h (heq ▸ by simp)
    simp [List.isPrefixOf, hd]

theorem sections_lines {r : Registry} (hr : r.Clean) {extra : List (String × Nat)}
    (hextra : ∀ e ∈ extra, ' ' ∉ e.1.toList) :
    (r.lines extra ++ [""]).splitOnP isHeading =
      [] :: (Metric.all.map fun m => (r.samplesOf m).map Sample.text) ++
        [r.drainingLine :: extra.map gauge ++ [""]] := by
  have hheading (m : Metric) : isHeading m.heading = true := by cases m <;> decide
  have hsamples (m : Metric) : ∀ line ∈ (r.samplesOf m).map Sample.text, isHeading line = false := by
    intro line hline
    obtain ⟨s, hs, rfl⟩ := List.mem_map.mp hline
    exact isHeading_text hr hs
  have hlast : ∀ line ∈ r.drainingLine :: (extra.map gauge ++ [""]), isHeading line = false := by
    intro line hline
    rw [List.mem_cons, List.mem_append, List.mem_singleton] at hline
    rcases hline with rfl | hline | rfl
    · rw [drainingLine_eq]
      split <;> decide
    · obtain ⟨e, he, rfl⟩ := List.mem_map.mp hline
      exact isHeading_gauge (hextra e he)
    · decide
  rw [lines_eq, seriesLines, Metric.all]
  simp only [List.flatMap_cons, List.flatMap_nil, List.append_nil, List.cons_append,
    List.append_assoc, List.map_cons, List.map_nil, List.nil_append]
  rw [← List.nil_append (_ :: _),
    List.splitOnP_append_cons_of_forall_mem (List.forall_mem_nil _) _ (hheading .checks),
    List.splitOnP_append_cons_of_forall_mem (hsamples .checks) _ (hheading .rejections),
    List.splitOnP_append_cons_of_forall_mem (hsamples .rejections) _ (hheading .requestErrors),
    List.splitOnP_append_cons_of_forall_mem (hsamples .requestErrors) _ (hheading .checkDuration),
    List.splitOnP_append_cons_of_forall_mem (hsamples .checkDuration) drainingHeading (by decide),
    List.splitOnP_eq_singleton hlast]

theorem lengths_sections {r : Registry} (hr : r.Clean) {extra : List (String × Nat)}
    (hextra : ∀ e ∈ extra, ' ' ∉ e.1.toList) :
    ((r.lines extra ++ [""]).splitOnP isHeading).map List.length =
      [0, r.checks.family.length, r.rejections.family.length, r.requestErrors.family.length,
        12 * r.checkDuration.family.length, 1 + extra.length + 1] := by
  have hcounter (c : Counter) (name : String) : (c.samples name).length = c.family.length :=
    List.length_map _
  rw [sections_lines hr hextra]
  simp only [Metric.all, List.map_cons, List.map_nil, List.length_map, List.cons_append,
    List.nil_append, List.length_nil, List.length_cons, List.length_append, samplesOf, hcounter,
    Histograms.length_samples hr.bucketed, Nat.zero_add, Nat.add_comm 1]

theorem lines_perm_nil {r r' : Registry} {extra extra' : List (String × Nat)}
    (hextra : extra'.Perm extra) (h : (r'.lines extra').Perm (r.lines extra)) :
    (r'.lines []).Perm (r.lines []) := by
  have happend (t : Registry) (extra : List (String × Nat)) :
      t.lines extra = t.lines [] ++ extra.map gauge := by
    simp [lines_eq]
  rw [happend r', happend r] at h
  exact (List.perm_append_right_iff _).mp (h.trans ((hextra.symm.map gauge).append_left _))

/-- **The text of a registry tells all that it holds.** Whatever the values of the labels,
the text has the registry's lines and no other: under its headings, one for each series of a
counter, twelve for each histogram, and last the flag and the further gauges. From them the
contents come back, so that contents that differ, in whatever order their series stand, have
different texts, and different lines in any order. -/
theorem render_recovers (changes : List Change) (r : Registry) (extra : List (String × Nat))
    (hnames : ∀ c ∈ changes, ∀ l ∈ c.labels, Label.isName l.1) (hr : r.Same (changed changes))
    (hextra : ∀ e ∈ extra, '\n' ∉ e.1.toList ∧ ' ' ∉ e.1.toList) :
    let s := changed changes
    pieces (r.render extra) = r.lines extra ++ [""] ∧
    ((pieces (r.render extra)).splitOnP isHeading).map List.length =
      [0, s.checks.family.length, s.rejections.family.length, s.requestErrors.family.length,
        12 * s.checkDuration.family.length, 1 + extra.length + 1] ∧
    (ofText (r.render extra)).Same s ∧
    ∀ (changes' : List Change) (r' : Registry) (extra' : List (String × Nat)),
      (∀ c ∈ changes', ∀ l ∈ c.labels, Label.isName l.1) → r'.Same (changed changes') →
      (∀ e ∈ extra', '\n' ∉ e.1.toList ∧ ' ' ∉ e.1.toList) →
      r'.render extra' = r.render extra ∨
        extra'.Perm extra ∧ (r'.lines extra').Perm (r.lines extra) →
      (changed changes').Same s := by
  intro s
  have hclean : r.Clean := (clean_changed hnames).of_same hr
  have hline := fun e he => (hextra e he).1
  have hown : (ofText (r.render extra)).Same s := by
    rw [ofText_render hclean hline]
    exact (ofLines_same hclean (.refl _)).trans hr
  refine ⟨pieces_render hclean hline, ?_, hown, ?_⟩
  · rw [pieces_render hclean hline, lengths_sections hclean fun e he => (hextra e he).2,
      hr.checks.length_eq, hr.rejections.length_eq, hr.requestErrors.length_eq,
      hr.checkDuration.length_eq]
  · intro changes' r' extra' hnames' hr' hextra' heq
    have hclean' : r'.Clean := (clean_changed hnames').of_same hr'
    refine hr'.symm.trans ?_
    rcases heq with heq | ⟨hperm, hlines⟩
    · have hother := ofLines_same hclean' (.refl _)
      rw [← ofText_render hclean' fun e he => (hextra' e he).1, heq] at hother
      exact hother.symm.trans hown
    · exact (ofLines_same hclean' (lines_perm_nil hperm hlines).symm).symm.trans
        ((ofLines_same hclean (.refl _)).trans hr)

/-- Values that would end a line, a quote or a series were they written as they are, and a
label that buckets have too. -/
def hostile : List Change :=
  [.check (.increment
      [("profile", "a\"\x7d 7\nrubyguard_checks_total\x7bprofile=\"b"), ("verdict", "\\")]),
    .check (.add [("profile", ","), ("verdict", "\\\"\\n")] 18446744073709551615),
    .duration ⟨[("le", "10")], ⟨0, 50000⟩⟩, .drain]

theorem render_recovers_hostile :
    let extra := [("rubyguard_checks_total\x7b\x7d", 3)]
    changed hostile.reverse ≠ changed hostile ∧
    ((pieces ((changed hostile.reverse).render extra)).splitOnP isHeading).map List.length =
      [0, 2, 0, 0, 12, 3] ∧
    (ofText ((changed hostile.reverse).render extra)).Same (changed hostile) := by
  have hsame : (changed hostile.reverse).Same (changed hostile) :=
    ⟨.swap _ _ _, .refl _, .refl _, .refl _, rfl⟩
  have h := render_recovers hostile (changed hostile.reverse)
    [("rubyguard_checks_total\x7b\x7d", 3)] (by decide) hsame (by decide)
  exact ⟨by decide, h.2.1, h.2.2.1⟩

end Registry

end ScriptGate.Metrics
