import Mathlib.Data.List.Induction
import Mathlib.Data.List.Nodup
import ScriptGate.Proofs.Gateway.Accounting

/-! Requests that overlap keep the registry in step.

A request updates the registry trace by trace, and another may come between any two of its
updates. A schedule says whose turn it is (`Gateway.traffic`). Whatever the schedule, the
registry is what the updates made so far make of it, each once and in some order
(`Gateway.recorded_traffic`). So a series counts the requests that are past its update,
and two series of one profile differ by the requests that are between the two updates. -/
namespace ScriptGate

open Metrics (Duration LabelSet Metric Registry Trace Verdict)

namespace Metrics

/-! ### Sums of series -/

/-- How many of some traces belong to the series of a family. -/
def Trace.tally (ts : List Trace) (m : Metric) (keys : List LabelSet) : Nat :=
  keys.foldr (fun key n => (ts.map Trace.series).count (m, key) + n) 0

/-- The sum of some series of a family. -/
def Registry.sum (r : Registry) (m : Metric) (keys : List LabelSet) : Nat :=
  keys.foldr (fun key n => (r.count m key).toNat + n) 0

namespace Trace

@[simp]
theorem tally_nil (m : Metric) (keys : List LabelSet) : tally [] m keys = 0 := by
  induction keys with
  | nil => rfl
  | cons key keys ih => exact (Nat.zero_add _).trans ih

@[simp]
theorem tally_cons (t : Trace) (ts : List Trace) (m : Metric) (keys : List LabelSet) :
    tally (t :: ts) m keys =
      tally ts m keys + if t.metric = m then keys.count (.ofList t.labels) else 0 := by
  induction keys with
  | nil =>
    rw [List.count_nil, ite_self]
    rfl
  | cons key keys ih =>
    simp only [tally, List.foldr_cons, List.map_cons, List.count_cons, beq_iff_eq] at ih ⊢
    rw [ih]
    by_cases hm : t.metric = m
    · simp only [series, Prod.mk.injEq, hm, true_and, if_true, eq_comm]
      omega
    · simp only [series, Prod.mk.injEq, hm, false_and, if_false]
      omega

theorem tally_append (ts ts' : List Trace) (m : Metric) (keys : List LabelSet) :
    tally (ts ++ ts') m keys = tally ts m keys + tally ts' m keys := by
  induction ts with
  | nil => simp
  | cons t ts ih =>
    rw [List.cons_append, tally_cons, tally_cons, ih]
    omega

/-- Where the tallies of each item differ by one or not at all, those of all items differ by
the number of items where they do. -/
theorem tally_flatMap_eq_add {α : Type} {f : α → List Trace} {m m' : Metric}
    {keys keys' : List LabelSet} {b : α → Bool}
    (h : ∀ a, tally (f a) m keys = tally (f a) m' keys' + if b a then 1 else 0) (l : List α) :
    tally (l.flatMap f) m keys = tally (l.flatMap f) m' keys' + l.countP b := by
  induction l with
  | nil => simp
  | cons a l ih =>
    rw [List.flatMap_cons, tally_append, tally_append, ih, h, List.countP_cons]
    omega

end Trace

end Metrics

namespace Gateway

/-! ### Requests on their way -/

/-- A request on its way, with the number of its traces that are in the registry. -/
structure Process where
  call : Call
  recorded : Nat := 0

/-- The requests that have arrived, in the order they did, and the registry they share. -/
structure Traffic where
  registry : Registry
  processes : List Process := []

/-- A request arrives, or one that has arrived makes its next update. -/
inductive Turn where
  | arrive (call : Call)
  | resume (i : Nat)

/-- The updates a request has made. -/
def done (g : Gateway) (p : Process) : List Trace := (g.tracesOf p.call).take p.recorded

/-- The updates a request has still to make. -/
def pending (g : Gateway) (p : Process) : List Trace := (g.tracesOf p.call).drop p.recorded

/-- An update holds its series from the look-up to the addition, so it is one turn. -/
def turn (g : Gateway) (s : Traffic) : Turn → Traffic
  | .arrive call => { s with processes := s.processes ++ [{ call }] }
  | .resume i =>
    match s.processes[i]? with
    | none => s
    | some p =>
      match g.pending p with
      | [] => s
      | t :: _ =>
        { registry := s.registry.record t
          processes := s.processes.set i { p with recorded := p.recorded + 1 } }

/-- What a schedule leads to. -/
def traffic (g : Gateway) (schedule : List Turn) : Traffic :=
  schedule.foldl g.turn { registry := g.registry }

/-- How many requests on a profile have made their update of one family and have still to
make that of another. -/
def between (g : Gateway) (s : Traffic) (id : String) (first second : Metric) : Nat :=
  s.processes.countP fun p => p.call.profileId == id &&
    ((g.done p).any (·.metric == first) && (g.pending p).any (·.metric == second))

/-- No request has an update to make. -/
def Idle (g : Gateway) (s : Traffic) : Prop := ∀ p ∈ s.processes, g.pending p = []

instance (g : Gateway) (s : Traffic) : Decidable (Idle g s) :=
  inferInstanceAs (Decidable (∀ p ∈ s.processes, g.pending p = []))

theorem done_append_pending (g : Gateway) (p : Process) :
    g.done p ++ g.pending p = g.tracesOf p.call :=
  List.take_append_drop _ _

/-- The next of the pending updates becomes the last of those that are done. -/
theorem done_succ (g : Gateway) {p : Process} {t : Trace} {rest : List Trace}
    (h : g.pending p = t :: rest) :
    g.done { p with recorded := p.recorded + 1 } = g.done p ++ [t] ∧
      g.pending { p with recorded := p.recorded + 1 } = rest := by
  have hnext : (g.tracesOf p.call)[p.recorded]? = some t := by
    rw [← List.head?_drop]
    exact congrArg List.head? h
  constructor
  · show (g.tracesOf p.call).take (p.recorded + 1) = _
    rw [List.take_add_one, hnext]
    rfl
  · show (g.tracesOf p.call).drop (p.recorded + 1) = _
    rw [← List.tail_drop]
    exact congrArg List.tail h

/-! ### One turn -/

/-- What a turn can do. -/
theorem turn_cases (g : Gateway) (s : Traffic) (a : Turn) :
    (∃ call, g.turn s a = { s with processes := s.processes ++ [{ call }] }) ∨
    g.turn s a = s ∨
    ∃ before p after t rest, s.processes = before ++ p :: after ∧ g.pending p = t :: rest ∧
      g.turn s a =
        ⟨s.registry.record t, before ++ { p with recorded := p.recorded + 1 } :: after⟩ := by
  cases a with
  | arrive call => exact .inl ⟨call, rfl⟩
  | resume i =>
    refine .inr ?_
    unfold turn
    dsimp only
    split
    · exact .inl rfl
    · next p hp =>
      split
      · exact .inl rfl
      · next t rest hpending =>
        obtain ⟨hi, hget⟩ := List.getElem?_eq_some_iff.mp hp
        have hset (q : Process) : ∃ before after, s.processes = before ++ p :: after ∧
            before.length = i ∧ s.processes.set i q = before ++ q :: after :=
          hget ▸ List.exists_of_set hi
        obtain ⟨before, after, hsplit, -, heq⟩ := hset { p with recorded := p.recorded + 1 }
        exact .inr ⟨before, p, after, t, rest, hsplit, hpending, by rw [heq]⟩

/-- The registry is what the updates that are done make of it, in some order. -/
def Recorded (g : Gateway) (s : Traffic) : Prop :=
  ∃ ts : List Trace, ts.Perm (s.processes.flatMap g.done) ∧
    s.registry = ts.foldl Registry.record g.registry

theorem Recorded.turn {g : Gateway} {s : Traffic} (h : Recorded g s) (a : Turn) :
    Recorded g (g.turn s a) := by
  obtain ⟨ts, hperm, hregistry⟩ := h
  rcases g.turn_cases s a with ⟨call, heq⟩ | heq | ⟨before, p, after, t, rest, hs, hp, heq⟩
  · -- A request that has just arrived has done nothing.
    refine ⟨ts, ?_, by rw [heq]; exact hregistry⟩
    have hnew : g.done { call } = [] := List.take_zero
    rw [heq, List.flatMap_append, List.flatMap_singleton, hnew, List.append_nil]
    exact hperm
  · rw [heq]
    exact ⟨ts, hperm, hregistry⟩
  · refine ⟨ts ++ [t], ?_, ?_⟩
    · rw [heq]
      rw [hs, List.flatMap_append, List.flatMap_cons] at hperm
      rw [List.flatMap_append, List.flatMap_cons, (g.done_succ hp).1]
      -- The trace is recorded last, but stands among those of its own request.
      refine (hperm.append_right [t]).trans ?_
      rw [List.append_assoc, List.append_assoc, List.append_assoc]
      exact (List.perm_append_comm.append_left _).append_left _
    · rw [heq, List.foldl_append, ← hregistry]
      rfl

/-! ### Any schedule -/

/-- No update is lost and none is made twice. -/
theorem recorded_traffic (g : Gateway) (schedule : List Turn) :
    Recorded g (g.traffic schedule) := by
  have hrun (s : Traffic) (h : Recorded g s) : Recorded g (schedule.foldl g.turn s) := by
    induction schedule generalizing s with
    | nil => exact h
    | cons a schedule ih => exact ih _ (h.turn a)
  exact hrun _ ⟨[], .refl _, rfl⟩

/-! ### What a series counts -/

/-- A request has no series twice. -/
theorem Leaves.nodup_series {g : Gateway} {id : String} {elapsed : Duration}
    {outcome : Except Error Evaluation} {ts : List Trace} (h : Leaves g id elapsed outcome ts) :
    (ts.map Trace.series).Nodup := by
  refine List.Nodup.of_map Prod.fst ?_
  cases h <;> simp [Trace.series]

theorem count_done_le_one (g : Gateway) (p : Process) (x : Metric × LabelSet) :
    ((g.done p).map Trace.series).count x ≤ 1 := by
  have hnodup := (g.judge_leaves p.call.profileId p.call.body p.call.elapsed).nodup_series
  exact List.nodup_iff_count_le_one.mp (hnodup.sublist ((List.take_sublist _ _).map _)) x

theorem count_flatMap_done_le (g : Gateway) (ps : List Process) (x : Metric × LabelSet) :
    ((ps.flatMap g.done).map Trace.series).count x ≤ ps.length := by
  induction ps with
  | nil => exact Nat.le_refl 0
  | cons p ps ih =>
    have hp := g.count_done_le_one p x
    rw [List.flatMap_cons, List.map_append, List.count_append, List.length_cons]
    omega

section Recorded
variable {g : Gateway} (hempty : g.registry = {}) {s : Traffic} (h : Recorded g s)
  (hfew : s.processes.length < UInt64.size)
include hempty h hfew

/-- A series counts the requests that have made their update of it. -/
theorem Recorded.toNat_count (m : Metric) (key : LabelSet) :
    (s.registry.count m key).toNat =
      ((s.processes.flatMap g.done).map Trace.series).count (m, key) := by
  obtain ⟨ts, hperm, hregistry⟩ := h
  have hfresh : g.registry.count m key = 0 := by
    rw [hempty]
    cases m <;> rfl
  rw [hregistry, Registry.count_foldl_record, hfresh, UInt64.zero_add, (hperm.map _).count_eq]
  exact UInt64.toNat_ofNat_of_lt (Nat.lt_of_le_of_lt (g.count_flatMap_done_le _ _) hfew)

theorem Recorded.sum_eq_tally (m : Metric) (keys : List LabelSet) :
    s.registry.sum m keys = Trace.tally (s.processes.flatMap g.done) m keys := by
  simp only [Registry.sum, Trace.tally, h.toNat_count hempty hfew]

end Recorded

/-! ### Series of one profile -/

/-- The series of a profile for each of the values of one more label. -/
def profileKeys (id name : String) (values : List String) : List LabelSet :=
  values.map fun value => .ofList [("profile", id), (name, value)]

theorem count_profileKeys {name : String} (hname : name ≠ "profile") (id other value : String)
    (values : List String) :
    (profileKeys id name values).count (.ofList [("profile", other), (name, value)]) =
      if other = id then values.count value else 0 := by
  have hinj (v : String) : LabelSet.ofList [("profile", id), (name, v)] =
      .ofList [("profile", other), (name, value)] ↔ id = other ∧ v = value :=
    LabelSet.ofList_pair_inj hname
  induction values with
  | nil => exact (ite_self 0).symm
  | cons v values ih =>
    rw [profileKeys, List.map_cons, List.count_cons, ← profileKeys, ih, List.count_cons]
    simp only [beq_iff_eq, hinj, @eq_comm _ id other]
    by_cases hother : other = id <;> simp [hother]

theorem nodup_refusedKinds : refusedKinds.Nodup := by decide

section OneRequest
variable {g : Gateway} {id : String} {elapsed : Duration} {outcome : Except Error Evaluation}
  {ts : List Trace}

/-- A request that has observed its duration has counted its check, or has still to do so. -/
theorem Leaves.tally_durations (h : Leaves g id elapsed outcome ts) (other : String) (n : Nat) :
    Trace.tally (ts.take n) .checkDuration [.ofList [("profile", other)]] =
      Trace.tally (ts.take n) .checks (profileKeys other "verdict" ["allowed", "rejected"]) +
        if id == other && ((ts.take n).any (·.metric == .checkDuration) &&
          (ts.drop n).any (·.metric == .checks)) then 1 else 0 := by
  cases h with
  | unknown | failed => rcases n with _ | n <;> simp
  | allowed | rejected =>
    -- One case for each point between two updates, and one for all after the last.
    rcases n with _ | _ | _ | n <;>
      simp [count_profileKeys, Verdict.label, LabelSet.ofList_singleton_inj, @eq_comm _ id other,
        List.count_singleton]

/-- A request that has counted a check as rejected has counted the rejection, or has still to
do so. -/
theorem Leaves.tally_rejected (h : Leaves g id elapsed outcome ts) (other : String) (n : Nat) :
    Trace.tally (ts.take n) .checks (profileKeys other "verdict" ["rejected"]) =
      Trace.tally (ts.take n) .rejections (profileKeys other "kind" refusedKinds) +
        if id == other && ((ts.take n).any (·.metric == .checks) &&
          (ts.drop n).any (·.metric == .rejections)) then 1 else 0 := by
  cases h with
  | unknown | failed => rcases n with _ | n <;> simp
  | allowed => rcases n with _ | _ | n <;> simp [count_profileKeys, Verdict.label]
  | rejected r _ _ hkind =>
    -- The sum over the kinds meets the kind of this rejection once.
    have hkinds := List.count_eq_one_of_mem nodup_refusedKinds hkind
    rcases n with _ | _ | _ | n <;> simp [count_profileKeys, Verdict.label, hkinds]

/-- A rejection is of one of the kinds a policy can refuse. -/
theorem Leaves.kind_mem_of_series (h : Leaves g id elapsed outcome ts) {t : Trace} (ht : t ∈ ts)
    {other kind : String}
    (hseries : t.series = (.rejections, .ofList [("profile", other), ("kind", kind)])) :
    kind ∈ refusedKinds := by
  cases h with
  | unknown | failed | allowed =>
    simp only [List.mem_cons, List.not_mem_nil, or_false] at ht
    rcases ht with rfl | rfl <;> cases hseries
  | rejected r n _ hr =>
    simp only [List.mem_cons, List.not_mem_nil, or_false] at ht
    rcases ht with rfl | rfl | rfl
    · cases hseries
    · cases hseries
    · have hlabels := (LabelSet.ofList_pair_inj (by decide)).mp (Prod.mk.inj hseries).2
      exact hlabels.2 ▸ hr

end OneRequest

/-! ### The registry while requests are on their way -/

end Gateway

namespace Metrics.Registry

def durationsOf (r : Registry) (id : String) : Nat :=
  (r.checkDuration.get [("profile", id)]).count.toNat

def checksOf (r : Registry) (id : String) (v : Verdict) : Nat :=
  (r.checks.get [("profile", id), ("verdict", v.label)]).toNat

/-- Those of one kind. -/
def rejectionsOf (r : Registry) (id kind : String) : Nat :=
  (r.rejections.get [("profile", id), ("kind", kind)]).toNat

/-- Those of all kinds. -/
def allRejectionsOf (r : Registry) (id : String) : Nat :=
  refusedKinds.foldr (fun kind n => r.rejectionsOf id kind + n) 0

theorem allRejectionsOf_eq_sum (r : Registry) (id : String) :
    r.allRejectionsOf id = r.sum .rejections (Gateway.profileKeys id "kind" refusedKinds) := by
  rw [sum, Gateway.profileKeys, List.foldr_map]
  rfl

end Metrics.Registry

namespace Gateway

/-- The series of a profile agree, but for the requests that are between two updates. -/
structure InStep (g : Gateway) (s : Traffic) (id : String) : Prop where
  durations : s.registry.durationsOf id =
    s.registry.checksOf id .allowed + s.registry.checksOf id .rejected +
      g.between s id .checkDuration .checks
  rejected : s.registry.checksOf id .rejected =
    s.registry.allRejectionsOf id + g.between s id .checks .rejections
  /-- No rejection is of a kind that the sum leaves out. -/
  kinds (kind : String) (h : kind ∉ refusedKinds) : s.registry.rejectionsOf id kind = 0

theorem Recorded.inStep {g : Gateway} (hempty : g.registry = {}) {s : Traffic} (h : Recorded g s)
    (hfew : s.processes.length < UInt64.size) (id : String) : InStep g s id := by
  have hleaves (p : Process) := g.judge_leaves p.call.profileId p.call.body p.call.elapsed
  have hsum := h.sum_eq_tally hempty hfew
  constructor
  · have htally := Trace.tally_flatMap_eq_add
      (fun p => (hleaves p).tally_durations id p.recorded) s.processes
    have hall : s.registry.sum .checkDuration [.ofList [("profile", id)]] =
        s.registry.sum .checks (profileKeys id "verdict" ["allowed", "rejected"]) +
          g.between s id .checkDuration .checks := by
      rw [hsum, hsum]
      exact htally
    exact hall
  · have htally := Trace.tally_flatMap_eq_add
      (fun p => (hleaves p).tally_rejected id p.recorded) s.processes
    rw [Registry.allRejectionsOf_eq_sum, hsum]
    refine Eq.trans ?_ htally
    exact hsum .checks (profileKeys id "verdict" ["rejected"])
  · intro kind hkind
    refine (h.toNat_count hempty hfew .rejections _).trans (List.count_eq_zero.mpr ?_)
    intro hmem
    obtain ⟨t, ht, hseries⟩ := List.mem_map.mp hmem
    obtain ⟨p, -, ht⟩ := List.mem_flatMap.mp ht
    exact hkind ((hleaves p).kind_mem_of_series (List.mem_of_mem_take ht) hseries)

/-! ### No request on its way -/

section Idle
variable {g : Gateway} {s : Traffic} (hidle : Idle g s)
include hidle

theorem Idle.between_eq_zero (id : String) (first second : Metric) :
    g.between s id first second = 0 := by
  refine List.countP_eq_zero.mpr fun p hp => ?_
  rw [hidle p hp, List.any_nil, Bool.and_false, Bool.and_false]
  exact Bool.false_ne_true

theorem Idle.flatMap_done :
    s.processes.flatMap g.done = (s.processes.map Process.call).flatMap g.tracesOf := by
  rw [List.flatMap_map]
  refine List.flatMap_congr fun p hp => ?_
  rw [← g.done_append_pending p, hidle p hp, List.append_nil]

/-- Requests that have overlapped are counted as if they had come one after the other. -/
theorem Idle.count_eq (h : Recorded g s) (m : Metric) (key : LabelSet) :
    s.registry.count m key =
      (g.after ((s.processes.map Process.call).map .check)).registry.count m key := by
  obtain ⟨ts, hperm, hregistry⟩ := h
  rw [hregistry, registry_after_calls, Registry.count_foldl_record, Registry.count_foldl_record,
    (hperm.map _).count_eq, hidle.flatMap_done]

end Idle

/-! ### One request after the other -/

theorem turn_resume (g : Gateway) (r : Registry) (before after : List Process) {p : Process}
    {t : Trace} {rest : List Trace} (h : g.pending p = t :: rest) :
    g.turn ⟨r, before ++ p :: after⟩ (.resume before.length) =
      ⟨r.record t, before ++ { p with recorded := p.recorded + 1 } :: after⟩ := by
  simp [turn, h]

/-- A request that is not interrupted records its traces one after the other. -/
theorem foldl_resume (g : Gateway) (r : Registry) (before : List Process) (p : Process) :
    ∃ n, (List.replicate n (.resume before.length)).foldl g.turn ⟨r, before ++ [p]⟩ =
        ⟨(g.pending p).foldl Registry.record r,
          before ++ [{ p with recorded := p.recorded + n }]⟩ ∧
      g.pending { p with recorded := p.recorded + n } = [] := by
  generalize hts : g.pending p = ts
  induction ts generalizing p r with
  | nil => exact ⟨0, rfl, hts⟩
  | cons t rest ih =>
    obtain ⟨n, hrun, hdone⟩ := ih (r.record t) _ (g.done_succ hts).2
    refine ⟨n + 1, ?_, ?_⟩
    · rw [List.replicate_succ, List.foldl_cons, g.turn_resume r before [] hts, hrun]
      rw [Nat.add_right_comm]
      rfl
    · rw [← hdone, Nat.add_right_comm]
      rfl

/-- Calls that are answered one after the other are one of the schedules. -/
theorem exists_traffic_eq_after (g : Gateway) (calls : List Call) :
    ∃ schedule, let s := g.traffic schedule
      s.processes.map Process.call = calls ∧ Idle g s ∧
        s.registry = (g.after (calls.map .check)).registry := by
  induction calls using List.reverseRec with
  | nil => exact ⟨[], rfl, nofun, rfl⟩
  | append_singleton calls call ih =>
    obtain ⟨schedule, hcalls, hidle, hregistry⟩ := ih
    generalize hs : g.traffic schedule = s at hcalls hidle hregistry
    obtain ⟨n, hrun, hdone⟩ := g.foldl_resume s.registry s.processes { call }
    have hpending : g.pending { call } = g.tracesOf call := List.drop_zero
    have htraffic : g.traffic (schedule ++ .arrive call ::
          List.replicate n (.resume s.processes.length)) =
        ⟨(g.tracesOf call).foldl Registry.record s.registry,
          s.processes ++ [{ call, recorded := 0 + n }]⟩ := by
      rw [traffic, List.foldl_append, List.foldl_cons, ← traffic, hs, ← hpending]
      exact hrun
    refine ⟨schedule ++ .arrive call :: List.replicate n (.resume s.processes.length), ?_⟩
    rw [htraffic]
    refine ⟨?_, ?_, ?_⟩
    · rw [List.map_append, hcalls]
      rfl
    · exact List.forall_mem_append.mpr ⟨hidle, List.forall_mem_singleton.mpr hdone⟩
    · rw [registry_after_calls] at hregistry ⊢
      rw [List.flatMap_append, List.flatMap_singleton, List.foldl_append, ← hregistry]

/-! ### All together -/

/-- **Whatever the schedule, the registry is in step with the requests.** Each series counts
the requests that have made their update of it, so no update is lost and none is made
twice. For every profile the durations are the checks and the requests between the two,
the rejected checks are the rejections and the requests between the two, and neither
rejections nor checks are ever ahead. When no request is on its way all agree, and every
count is what it is after the same requests one after the other. -/
theorem traffic_inStep {c : Config} {g : Gateway} (hg : ofConfig c = .ok g) (schedule : List Turn)
    (hfew : (g.traffic schedule).processes.length < UInt64.size) :
    let s := g.traffic schedule
    let r := s.registry
    (∀ m key, (r.count m key).toNat =
      ((s.processes.flatMap g.done).map Trace.series).count (m, key)) ∧
    (∀ id, InStep g s id ∧ r.allRejectionsOf id ≤ r.checksOf id .rejected ∧
      r.checksOf id .allowed + r.checksOf id .rejected ≤ r.durationsOf id) ∧
    (Idle g s →
      (∀ id, r.checksOf id .rejected = r.allRejectionsOf id ∧
        r.durationsOf id = r.checksOf id .allowed + r.checksOf id .rejected) ∧
      ∀ m key, r.count m key =
        (g.after ((s.processes.map Process.call).map .check)).registry.count m key) := by
  intro s r
  obtain ⟨_, hempty, _⟩ := ofConfig_eq_ok hg
  have hrecorded : Recorded g s := g.recorded_traffic schedule
  have hinStep (id : String) : InStep g s id := hrecorded.inStep hempty hfew id
  refine ⟨hrecorded.toNat_count hempty hfew, fun id => ⟨hinStep id, ?_, ?_⟩, fun hidle => ⟨?_, ?_⟩⟩
  · exact (hinStep id).rejected ▸ Nat.le_add_right _ _
  · exact (hinStep id).durations ▸ Nat.le_add_right _ _
  · intro id
    have hrejected := (hinStep id).rejected
    have hdurations := (hinStep id).durations
    rw [hidle.between_eq_zero, Nat.add_zero] at hrejected hdurations
    exact ⟨hrejected, hdurations⟩
  · exact hidle.count_eq hrecorded

/-- Two requests on one profile, one of them on a tree that is rejected: both have observed
their durations, and only the rejected check is counted. -/
def overlap : List Turn :=
  [.arrive ⟨"-", (Node.integer "1").encode.render.toUTF8, ⟨0, 0⟩⟩,
   .arrive ⟨"-", (Node.identifier "eval").encode.render.toUTF8, ⟨0, 0⟩⟩,
   .resume 1, .resume 0, .resume 1]

theorem traffic_inStep_overlap :
    ∃ g, ofConfig dashConfig = .ok g ∧
      (let s := g.traffic overlap
      g.between s "-" .checkDuration .checks = 1 ∧ g.between s "-" .checks .rejections = 1 ∧
      s.registry.durationsOf "-" = 2 ∧ s.registry.checksOf "-" .allowed = 0 ∧
      s.registry.checksOf "-" .rejected = 1 ∧ s.registry.allRejectionsOf "-" = 0) ∧
      let s := g.traffic (overlap ++ [.resume 0, .resume 1])
      Idle g s ∧ s.registry.durationsOf "-" = 2 ∧ s.registry.checksOf "-" .allowed = 1 ∧
      s.registry.checksOf "-" .rejected = 1 ∧ s.registry.allRejectionsOf "-" = 1 := by
  obtain ⟨g, hg, hbusy, hquiet⟩ : ∃ g, ofConfig dashConfig = .ok g ∧
      (let s := g.traffic overlap
      s.processes.length < UInt64.size ∧ g.between s "-" .checkDuration .checks = 1 ∧
      g.between s "-" .checks .rejections = 1 ∧ s.registry.checksOf "-" .allowed = 0 ∧
      s.registry.checksOf "-" .rejected = 1) ∧
      let s := g.traffic (overlap ++ [.resume 0, .resume 1])
      s.processes.length < UInt64.size ∧ Idle g s ∧ s.registry.checksOf "-" .allowed = 1 ∧
      s.registry.checksOf "-" .rejected = 1 :=
    ⟨_, rfl, by decide +kernel⟩
  refine ⟨g, hg, ?_, ?_⟩
  · obtain ⟨hfew, hchecking, hrejecting, hallowed, hrejected⟩ := hbusy
    obtain ⟨-, hprofiles, -⟩ := traffic_inStep hg overlap hfew
    have hdurations := (hprofiles "-").1.durations
    have hrejections := (hprofiles "-").1.rejected
    rw [hallowed, hrejected, hchecking] at hdurations
    rw [hrejected, hrejecting] at hrejections
    exact ⟨hchecking, hrejecting, hdurations, hallowed, hrejected,
      (Nat.succ.inj hrejections).symm⟩
  · obtain ⟨hfew, hidle, hallowed, hrejected⟩ := hquiet
    obtain ⟨-, -, hagree⟩ := traffic_inStep hg _ hfew
    obtain ⟨hrejections, hdurations⟩ := (hagree hidle).1 "-"
    rw [hallowed, hrejected] at hdurations
    exact ⟨hidle, hdurations, hallowed, hrejected, hrejections.symm.trans hrejected⟩

end Gateway

end ScriptGate
