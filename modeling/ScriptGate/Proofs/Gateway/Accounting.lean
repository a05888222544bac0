import ScriptGate.Proofs.Gateway.Outcome

/-! The registry accounts for every call exactly once.

The log of some calls has an entry for each, with the answer the caller got. Every series
of the registry is then a number of entries (`Gateway.Accounts`), modulo the size of a
machine word: checks by verdict, rejections by kind, failures by code. That is proved of
one call, case by case of what can become of it, and carried over to any number of them
by `Gateway.count_after_calls`. -/
namespace ScriptGate

open Metrics (Counter Duration LabelSet Metric Registry Trace Verdict)

theorem ErrorCode.text_inj {a b : ErrorCode} : a.text = b.text ↔ a = b := by
  cases a <;> cases b <;> decide

theorem Metrics.Verdict.label_inj {a b : Verdict} : a.label = b.label ↔ a = b := by
  cases a <;> cases b <;> decide

/-- Where one item of a list gives rise to one match at most, the matches are the items
that give rise to one. -/
theorem countP_flatMap_eq_countP {α β : Type} {f : α → List β} {p : β → Bool} {q : α → Bool}
    (h : ∀ a, (f a).countP p = if q a then 1 else 0) (l : List α) :
    (l.flatMap f).countP p = l.countP q := by
  induction l with
  | nil => rfl
  | cons a l ih => rw [List.flatMap_cons, List.countP_append, List.countP_cons, ih, h, Nat.add_comm]

namespace Gateway

/-! ### The log -/

/-- A call as it was answered. -/
structure Entry where
  call : Call
  answer : Except Error CheckResponse
  /-- What the policy had against the tree, if anything. -/
  rejection : Option Rejection

namespace Entry

def isOn (e : Entry) (id : String) : Bool := e.call.profileId == id

def verdict? (e : Entry) : Option Verdict :=
  match e.answer with
  | .ok response => some (if response.allowed then .allowed else .rejected)
  | .error _ => none

def code? (e : Entry) : Option ErrorCode :=
  match e.answer with
  | .ok _ => none
  | .error error => some error.code

/-- The kind of the node that was refused, as a label. -/
def kind? (e : Entry) : Option String := e.rejection.map Rejection.metricKind

/-- The entry of a call that was judged so. -/
def ofOutcome (call : Call) (outcome : Except Error Evaluation) : Entry where
  call := call
  answer := outcome.map CheckResponse.ofEvaluation
  rejection := outcome.toOption.bind Evaluation.rejection

section OfOutcome
variable (call : Call) (error : Error) (rejection : Option Rejection) (n : Nat)

@[simp]
theorem isOn_ofOutcome (outcome : Except Error Evaluation) (id : String) :
    (ofOutcome call outcome).isOn id = (call.profileId == id) := rfl

@[simp]
theorem verdict?_error : (ofOutcome call (.error error)).verdict? = none := rfl

@[simp]
theorem verdict?_ok : (ofOutcome call (.ok ⟨rejection, n⟩)).verdict? =
    some (if rejection.isNone then .allowed else .rejected) := rfl

@[simp]
theorem code?_error : (ofOutcome call (.error error)).code? = some error.code := rfl

@[simp]
theorem code?_ok : (ofOutcome call (.ok ⟨rejection, n⟩)).code? = none := rfl

@[simp]
theorem kind?_error : (ofOutcome call (.error error)).kind? = none := rfl

@[simp]
theorem kind?_ok : (ofOutcome call (.ok ⟨rejection, n⟩)).kind? =
    rejection.map Rejection.metricKind := rfl

end OfOutcome

end Entry

def entry (g : Gateway) (call : Call) : Entry where
  call := call
  answer := (g.check call.elapsed call.profileId call.body).1
  rejection := (g.judge call.profileId call.body).toOption.bind Evaluation.rejection

/-- The entries of some calls, each answered in the state that those before it left. -/
def log (g : Gateway) : List Call → List Entry
  | [] => []
  | call :: rest => g.entry call :: (g.act (.check call)).log rest

theorem entry_act (g : Gateway) (a : Action) : (g.act a).entry = g.entry := by
  funext call
  show Entry.ofOutcome call ((g.act a).judge call.profileId call.body) = _
  rw [judge_act]
  rfl

theorem log_eq_map (g : Gateway) (calls : List Call) : g.log calls = calls.map g.entry := by
  induction calls generalizing g with
  | nil => rfl
  | cons call rest ih => rw [log, ih, entry_act, List.map_cons]

/-! ### From one call to any number -/

/-- What goes up by one at some traces, and of which each call leaves one at most, is in the
end the number of calls that leave one. -/
theorem view_after_calls (view : Registry → UInt64) (p : Trace → Bool)
    (hview : ∀ r t, view (r.record t) = view r + if p t then 1 else 0) {g : Gateway}
    (hfresh : view g.registry = 0) {counted : Entry → Bool}
    (h : ∀ call outcome ts, Leaves g call.profileId call.elapsed outcome ts →
      ts.countP p = if counted (.ofOutcome call outcome) then 1 else 0)
    (calls : List Call) :
    view (g.after (calls.map .check)).registry = .ofNat ((g.log calls).countP counted) := by
  have hcall (call : Call) : (g.tracesOf call).countP p = if counted (g.entry call) then 1 else 0 :=
    h call _ _ (g.judge_leaves call.profileId call.body call.elapsed)
  rw [registry_after_calls, Registry.foldl_record_eq_add view p hview, hfresh, UInt64.zero_add,
    countP_flatMap_eq_countP hcall, log_eq_map, List.countP_map]
  rfl

/-- A series in which each call is counted once or not at all counts those it is. -/
theorem count_after_calls {g : Gateway} (hempty : g.registry = {}) (m : Metric) (key : LabelSet)
    {counted : Entry → Bool}
    (h : ∀ call outcome ts, Leaves g call.profileId call.elapsed outcome ts →
      ts.countP (fun t => t.series == (m, key)) =
        if counted (.ofOutcome call outcome) then 1 else 0)
    (calls : List Call) :
    (g.after (calls.map .check)).registry.count m key = .ofNat ((g.log calls).countP counted) := by
  refine view_after_calls (·.count m key) _ (fun r t => ?_) ?_ h calls
  · simp only [Registry.count_record, beq_iff_eq]
  · rw [hempty]
    cases m <;> rfl

/-! ### One call -/

section OneCall
variable {g : Gateway} {call : Call} {outcome : Except Error Evaluation} {ts : List Trace}

theorem Leaves.countP_checks (h : Leaves g call.profileId call.elapsed outcome ts) (id : String)
    (v : Verdict) :
    ts.countP (fun t => t.series == (.checks, .ofList [("profile", id), ("verdict", v.label)])) =
      if (Entry.ofOutcome call outcome).isOn id &&
        (Entry.ofOutcome call outcome).verdict? == some v then 1 else 0 := by
  cases h <;>
    simp [Trace.series, LabelSet.ofList_pair_inj, Verdict.label_inj, List.countP_cons]

theorem Leaves.countP_rejections (h : Leaves g call.profileId call.elapsed outcome ts)
    (id kind : String) :
    ts.countP (fun t => t.series == (.rejections, .ofList [("profile", id), ("kind", kind)])) =
      if (Entry.ofOutcome call outcome).isOn id &&
        (Entry.ofOutcome call outcome).kind? == some kind then 1 else 0 := by
  cases h <;> simp [Trace.series, LabelSet.ofList_pair_inj, List.countP_cons]

/-- Whatever the kind, a rejection is a rejected check. -/
theorem Leaves.countP_allRejections (h : Leaves g call.profileId call.elapsed outcome ts)
    (id : String) :
    ts.countP (fun t => t.metric = .rejections ∧ ("profile", id) ∈ t.labels) =
      if (Entry.ofOutcome call outcome).isOn id &&
        (Entry.ofOutcome call outcome).verdict? == some .rejected then 1 else 0 := by
  cases h with
  | rejected r n =>
    have hlabel : (id = call.profileId) = (call.profileId = id) := propext eq_comm
    simp [List.countP_cons, hlabel]
  | _ => simp

theorem Leaves.countP_durations (h : Leaves g call.profileId call.elapsed outcome ts)
    (id : String) :
    ts.countP (fun t => t.series == (.checkDuration, .ofList [("profile", id)])) =
      if (Entry.ofOutcome call outcome).isOn id &&
        (Entry.ofOutcome call outcome).verdict?.isSome then 1 else 0 := by
  cases h <;> simp [Trace.series, LabelSet.ofList_singleton_inj, List.countP_cons]

/-- Failures by code, but for the one series that a profile could share with the calls on
none. -/
theorem Leaves.countP_requestErrors (h : Leaves g call.profileId call.elapsed outcome ts)
    {id : String} (hid : (g.gate? id).isSome = true) {code : ErrorCode}
    (hcode : ¬(id = "-" ∧ code = .unknownProfile)) :
    ts.countP (fun t => t.series ==
        (.requestErrors, .ofList [("profile", id), ("code", code.text)])) =
      if (Entry.ofOutcome call outcome).isOn id &&
        (Entry.ofOutcome call outcome).code? == some code then 1 else 0 := by
  cases h with
  | unknown hgate =>
    have hne : call.profileId ≠ id := by
      intro heq
      rw [← heq, hgate] at hid
      cases hid
    have hother : ¬("-" = id ∧ ErrorCode.unknownProfile = code) := by
      rintro ⟨hdash, hunknown⟩
      exact hcode ⟨hdash.symm, hunknown.symm⟩
    simp [Trace.series, LabelSet.ofList_pair_inj, ErrorCode.text_inj, hother, hne]
  | _ => simp [Trace.series, LabelSet.ofList_pair_inj, ErrorCode.text_inj, List.countP_cons]

theorem Leaves.countP_unknown (h : Leaves g call.profileId call.elapsed outcome ts) :
    ts.countP (fun t => t.series ==
        (.requestErrors, .ofList [("profile", "-"), ("code", ErrorCode.unknownProfile.text)])) =
      if (g.gate? call.profileId).isNone then 1 else 0 := by
  cases h with
  | unknown hgate => simp [Trace.series, hgate]
  | failed e hgate hcode =>
    -- Also on a profile of that name: a document fails with another code.
    have hne := ne_unknownProfile_of_mem hcode
    simp [Trace.series, LabelSet.ofList_pair_inj, ErrorCode.text_inj, hne, ← Option.not_isSome,
      hgate]
  | allowed n hgate => simp [Trace.series, ← Option.not_isSome, hgate]
  | rejected r n hgate => simp [Trace.series, ← Option.not_isSome, hgate]

end OneCall

/-! ### The accounts -/

/-- What the registry says of a profile is what the log says. -/
structure Accounts (r : Registry) (log : List Entry) (id : String) : Prop where
  checks (v : Verdict) : r.checks.get [("profile", id), ("verdict", v.label)] =
    .ofNat (log.countP fun e => e.isOn id && e.verdict? == some v)
  rejections (kind : String) : r.rejections.get [("profile", id), ("kind", kind)] =
    .ofNat (log.countP fun e => e.isOn id && e.kind? == some kind)
  allRejections : r.rejections.total ("profile", id) =
    r.checks.get [("profile", id), ("verdict", "rejected")]
  requestErrors (code : ErrorCode) (h : ¬(id = "-" ∧ code = .unknownProfile)) :
    r.requestErrors.get [("profile", id), ("code", code.text)] =
      .ofNat (log.countP fun e => e.isOn id && e.code? == some code)
  durations : (r.checkDuration.get [("profile", id)]).count =
    r.checks.get [("profile", id), ("verdict", "allowed")] +
      r.checks.get [("profile", id), ("verdict", "rejected")]

/-- The entries with a verdict are the allowed and the rejected ones. -/
theorem countP_verdict (log : List Entry) (id : String) :
    (log.countP fun e => e.isOn id && e.verdict?.isSome) =
      (log.countP fun e => e.isOn id && e.verdict? == some .allowed) +
        log.countP fun e => e.isOn id && e.verdict? == some .rejected := by
  induction log with
  | nil => rfl
  | cons e log ih =>
    simp only [List.countP_cons, ih]
    rcases e.verdict? with _ | _ | _ <;> cases e.isOn id <;> simp <;> omega

theorem accounts_after_calls {g : Gateway} (hempty : g.registry = {}) (calls : List Call)
    {id : String} (hid : (g.gate? id).isSome = true) :
    Accounts (g.after (calls.map .check)).registry (g.log calls) id := by
  have hchecks (v : Verdict) : (g.after (calls.map .check)).registry.checks.get
      [("profile", id), ("verdict", v.label)] =
      .ofNat ((g.log calls).countP fun e => e.isOn id && e.verdict? == some v) :=
    count_after_calls hempty .checks _ (fun _ _ _ h => h.countP_checks id v) calls
  refine ⟨hchecks, fun kind => ?_, ?_, fun code hcode => ?_, ?_⟩
  · exact count_after_calls hempty .rejections _ (fun _ _ _ h => h.countP_rejections id kind) calls
  · refine Eq.trans ?_ (hchecks .rejected).symm
    refine view_after_calls (·.rejections.total ("profile", id)) _ (fun r t => ?_) ?_
      (fun _ _ _ h => h.countP_allRejections id) calls
    · simp only [Registry.total_record, decide_eq_true_eq]
    · rw [hempty]
      rfl
  · exact count_after_calls hempty .requestErrors _
      (fun _ _ _ h => h.countP_requestErrors hid hcode) calls
  · have hdurations : ((g.after (calls.map .check)).registry.checkDuration.get
        [("profile", id)]).count =
        .ofNat ((g.log calls).countP fun e => e.isOn id && e.verdict?.isSome) :=
      count_after_calls hempty .checkDuration _ (fun _ _ _ h => h.countP_durations id) calls
    rw [hdurations, countP_verdict, UInt64.ofNat_add, ← hchecks, ← hchecks]
    rfl

/-! ### The order of calls -/

/-- What a call asks, without the time it takes. -/
def Call.request (call : Call) : String × ByteArray := (call.profileId, call.body)

/-- The time a call takes decides no series. -/
theorem series_traces (id : String) (d d' : Duration) (outcome : Except Error Evaluation) :
    (traces id d outcome).map Trace.series = (traces id d' outcome).map Trace.series := by
  rcases outcome with e | ⟨_ | r, n⟩
  · cases e <;> rfl
  · rfl
  · rfl

theorem count_after_calls_of_perm (g : Gateway) {calls calls' : List Call}
    (h : (calls.map Call.request).Perm (calls'.map Call.request)) (m : Metric) (key : LabelSet) :
    (g.after (calls.map .check)).registry.count m key =
      (g.after (calls'.map .check)).registry.count m key := by
  have hseries (calls : List Call) : (calls.flatMap g.tracesOf).map Trace.series =
      (calls.map Call.request).flatMap fun request =>
        (traces request.1 ⟨0, 0⟩ (g.judge request.1 request.2)).map Trace.series := by
    rw [List.map_flatMap, List.flatMap_map]
    congr 1
    funext call
    exact series_traces _ _ _ _
  rw [registry_after_calls, registry_after_calls, Registry.count_foldl_record,
    Registry.count_foldl_record, hseries, hseries, (h.flatMap_right _).count_eq]

/-! ### All together -/

/-- A call that is answered is no request error, and one that fails is nothing else. -/
theorem Leaves.apart {g : Gateway} {id : String} {elapsed : Duration}
    {outcome : Except Error Evaluation} {ts : List Trace} (h : Leaves g id elapsed outcome ts)
    (r : Registry) :
    (∃ e, outcome = .ok e) ∧ (ts.foldl Registry.record r).requestErrors = r.requestErrors ∨
    (∃ e, outcome = .error e) ∧ (ts.foldl Registry.record r).checks = r.checks ∧
      (ts.foldl Registry.record r).rejections = r.rejections ∧
      (ts.foldl Registry.record r).checkDuration = r.checkDuration := by
  cases h with
  | unknown | failed e => exact .inr ⟨⟨_, rfl⟩, rfl, rfl, rfl⟩
  | allowed n | rejected r n => exact .inl ⟨⟨_, rfl⟩, rfl⟩

theorem Leaves.code?_eq_unknownProfile_iff {g : Gateway} {call : Call}
    {outcome : Except Error Evaluation} {ts : List Trace}
    (h : Leaves g call.profileId call.elapsed outcome ts) :
    (Entry.ofOutcome call outcome).code? = some .unknownProfile ↔
      (g.gate? call.profileId).isNone = true := by
  cases h with
  | unknown hgate => simp [hgate, Error.code]
  | failed e hgate hcode =>
    simp [ne_unknownProfile_of_mem hcode, Option.isSome_iff_ne_none.mp hgate]
  | allowed n hgate | rejected r n hgate => simp [Option.isSome_iff_ne_none.mp hgate]

/-- **The registry accounts for every call exactly once.** For each profile the series say
what the log says: checks by verdict, rejections by kind, whose sum is the rejected
checks, failures by code, and as many durations as checks. Calls on an id that no profile
has are counted apart, under a name of their own even where a profile goes by it. No
call is counted both as a check and as a failure. So the order of the calls, and the
time they take, make no difference to any count. -/
theorem registry_accounts {c : Config} {g : Gateway} (hg : ofConfig c = .ok g)
    (calls : List Call) :
    (∀ p ∈ c.profiles, Accounts (g.after (calls.map .check)).registry (g.log calls) p.id) ∧
    (g.after (calls.map .check)).registry.requestErrors.get
        [("profile", "-"), ("code", ErrorCode.unknownProfile.text)] =
      .ofNat ((g.log calls).countP fun e => (c.profile e.call.profileId).isNone) ∧
    (∀ e ∈ g.log calls,
      e.code? = some .unknownProfile ↔ (c.profile e.call.profileId).isNone = true) ∧
    (∀ call, let before := g.after (calls.map .check)
      let after := before.act (.check call)
      (∃ response, (before.entry call).answer = .ok response) ∧
        after.registry.requestErrors = before.registry.requestErrors ∨
      (∃ error, (before.entry call).answer = .error error) ∧
        after.registry.checks = before.registry.checks ∧
        after.registry.rejections = before.registry.rejections ∧
        after.registry.checkDuration = before.registry.checkDuration) ∧
    ∀ calls' : List Call, (calls.map Call.request).Perm (calls'.map Call.request) → ∀ m key,
      (g.after (calls.map .check)).registry.count m key =
        (g.after (calls'.map .check)).registry.count m key := by
  obtain ⟨_, hempty, _⟩ := ofConfig_eq_ok hg
  have hnone (id : String) : (c.profile id).isNone = (g.gate? id).isNone := by
    rw [← Option.not_isSome, ← Option.not_isSome, Bool.eq_iff_iff.mpr (isSome_gate?_iff hg id)]
  simp only [hnone]
  refine ⟨fun p hp => ?_, ?_, fun e he => ?_, fun call => ?_, fun calls' h m key => ?_⟩
  · refine accounts_after_calls hempty calls ((isSome_gate?_iff hg p.id).mpr ?_)
    exact (c.isSome_profile_iff p.id).mpr ⟨p, hp, rfl⟩
  · exact count_after_calls hempty .requestErrors _ (fun _ _ _ h => h.countP_unknown) calls
  · rw [log_eq_map] at he
    obtain ⟨call, _, rfl⟩ := List.mem_map.mp he
    exact (g.judge_leaves call.profileId call.body call.elapsed).code?_eq_unknownProfile_iff
  · generalize g.after (calls.map .check) = before
    rcases (before.judge_leaves call.profileId call.body call.elapsed).apart before.registry with
      ⟨⟨e, he⟩, hrest⟩ | ⟨⟨e, he⟩, hrest⟩
    · refine .inl ⟨⟨CheckResponse.ofEvaluation e, ?_⟩, hrest⟩
      exact congrArg (Except.map CheckResponse.ofEvaluation) he
    · refine .inr ⟨⟨e, ?_⟩, hrest⟩
      exact congrArg (Except.map CheckResponse.ofEvaluation) he
  · exact count_after_calls_of_perm g h m key

/-- A profile goes by the name under which the calls on none are counted. -/
def dashConfig : Config := { version := 1, profiles := [{ id := "-" }] }

/-- A call on no profile, and three on the profile: with no document, with a tree that is
allowed and with one that is rejected. -/
def dashCalls : List Call :=
  [⟨"x", .empty, ⟨0, 0⟩⟩, ⟨"-", .empty, ⟨0, 0⟩⟩,
   ⟨"-", (Node.integer "1").encode.render.toUTF8, ⟨0, 0⟩⟩,
   ⟨"-", (Node.identifier "eval").encode.render.toUTF8, ⟨0, 0⟩⟩]

theorem registry_accounts_dash :
    ∃ g, ofConfig dashConfig = .ok g ∧
      let r := (g.after (dashCalls.map .check)).registry
      r.requestErrors.get [("profile", "-"), ("code", "UNKNOWN_PROFILE")] = 1 ∧
      r.requestErrors.get [("profile", "-"), ("code", "MALFORMED_TREE")] = 1 ∧
      r.checks.get [("profile", "-"), ("verdict", "allowed")] = 1 ∧
      r.rejections.get [("profile", "-"), ("kind", "identifier")] = 1 ∧
      r.rejections.total ("profile", "-") = 1 ∧
      (r.checkDuration.get [("profile", "-")]).count = 2 := by
  obtain ⟨g, hg⟩ : ∃ g, ofConfig dashConfig = .ok g := ⟨_, rfl⟩
  obtain ⟨hprofiles, hunknown, -⟩ := registry_accounts hg dashCalls
  have h := hprofiles { id := "-" } List.mem_cons_self
  obtain rfl := Except.ok.inj hg
  have hallowed := (h.checks .allowed).trans (by decide +kernel : _ = (1 : UInt64))
  have hrejected := (h.checks .rejected).trans (by decide +kernel : _ = (1 : UInt64))
  refine ⟨_, rfl, hunknown.trans (by decide +kernel), ?_, hallowed, ?_, ?_, ?_⟩
  · exact (h.requestErrors .malformedTree (by decide)).trans (by decide +kernel)
  · exact (h.rejections "identifier").trans (by decide +kernel)
  · exact h.allRejections.trans hrejected
  · exact h.durations.trans (congrArg₂ (· + ·) hallowed hrejected)

end Gateway

end ScriptGate
