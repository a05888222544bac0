import ScriptGate.Proofs.Gateway.Isolation
import ScriptGate.Proofs.Metrics.Recording
import ScriptGate.Proofs.Policy.FirstOffender

/-! What can become of a request, and what it leaves behind.

A request ends in one of four ways: its profile is unknown, its document cannot be
evaluated, or its tree is allowed or rejected. `Gateway.Leaves` lists the four with the
traces of each, and `Gateway.judge_leaves` says there is no fifth. The registry after any
calls is what their traces make of it (`Gateway.registry_after_calls`). -/
namespace ScriptGate

open Metrics (Trace Duration Registry)

/-- The kinds of node a policy can refuse, and the label that stands for all others. -/
def refusedKinds : List String :=
  ["alias", "call", "class_variable", "class_variable_assignment", "constant", "defined",
   "executable_string", "global_variable", "global_variable_assignment", "identifier", "keyword",
   "until", "until_mod", "while", "while_mod", "unrecognized"]

/-- The codes of a document that cannot be evaluated. -/
def documentCodes : List ErrorCode := [.malformedTree, .treeTooDeep, .payloadTooLarge]

theorem ne_unknownProfile_of_mem {code : ErrorCode} (h : code ∈ documentCodes) :
    code ≠ .unknownProfile := by
  intro hunknown
  rw [hunknown] at h
  exact absurd h (by decide)

theorem Policy.metricKind_mem_of_refuse {p : Policy} {n : Node} {r : Rejection}
    (h : p.refuse n = some r) : r.metricKind ∈ refusedKinds := by
  cases n with
  | unrecognized tag =>
    obtain rfl := Option.some.inj h
    show Rejection.unrecognizedKind ∈ refusedKinds
    decide
  | known kind fs =>
    obtain ⟨token, htoken, rfl⟩ := Option.map_eq_some_iff.mp h
    show kind.tag ∈ refusedKinds
    -- A kind that is never refused has no token to show.
    cases kind <;> first
      | decide
      | cases htoken

theorem Policy.metricKind_mem_of_evaluate {p : Policy} {t : Node} {r : Rejection}
    (h : (p.evaluate t).rejection = some r) : r.metricKind ∈ refusedKinds := by
  obtain ⟨_, n, _, _, _, hn⟩ := exists_refuse_of_evaluate h
  exact metricKind_mem_of_refuse hn

theorem Gate.code_mem_of_check {g : Gate} {body : ByteArray} {e : Error}
    (h : g.check body = .error e) : e.code ∈ documentCodes := by
  have hcases : e = .payloadTooLarge ∨ ∃ fault, e = .tree fault := by
    unfold check checkLength at h
    split at h
    · exact .inl (Except.error.inj h).symm
    · simp only [bind, Except.bind] at h
      split at h
      · exact .inr ⟨_, (Except.error.inj h).symm⟩
      · cases h
  rcases hcases with rfl | ⟨fault, rfl⟩
  · decide
  · cases fault <;> simp [Error.code, documentCodes]

theorem Gate.metricKind_mem_of_check {g : Gate} {body : ByteArray} {r : Rejection} {n : Nat}
    (h : g.check body = .ok ⟨some r, n⟩) : r.metricKind ∈ refusedKinds := by
  unfold check at h
  obtain ⟨_, _, h⟩ := Except.bind_eq_ok_iff.mp h
  split at h
  · cases h
  · next tree _ =>
    refine Policy.metricKind_mem_of_evaluate (p := g.policy) (t := tree) ?_
    rw [Except.ok.inj h]

namespace Gateway

/-! ### One request -/

/-- The outcomes of a request, each with the traces it leaves. -/
inductive Leaves (g : Gateway) (id : String) (elapsed : Duration) :
    Except Error Evaluation → List Trace → Prop where
  | unknown : g.gate? id = none →
      Leaves g id elapsed (.error (.unknownProfile id))
        [.requestError "-" ErrorCode.unknownProfile.text]
  | failed (e : Error) : (g.gate? id).isSome = true → e.code ∈ documentCodes →
      Leaves g id elapsed (.error e) [.requestError id e.code.text]
  | allowed (n : Nat) : (g.gate? id).isSome = true →
      Leaves g id elapsed (.ok ⟨none, n⟩) [.duration id elapsed, .check id .allowed]
  | rejected (r : Rejection) (n : Nat) : (g.gate? id).isSome = true →
      r.metricKind ∈ refusedKinds →
      Leaves g id elapsed (.ok ⟨some r, n⟩)
        [.duration id elapsed, .check id .rejected, .rejection id r.metricKind]

theorem traces_of_code_ne (id : String) (elapsed : Duration) {e : Error}
    (h : e.code ∈ documentCodes) :
    traces id elapsed (.error e) = [.requestError id e.code.text] := by
  cases e with
  | unknownProfile other => exact absurd rfl (ne_unknownProfile_of_mem h)
  | _ => rfl

/-- There is no other outcome. -/
theorem judge_leaves (g : Gateway) (id : String) (body : ByteArray) (elapsed : Duration) :
    Leaves g id elapsed (g.judge id body) (traces id elapsed (g.judge id body)) := by
  cases hgate : g.gate? id with
  | none =>
    have hjudge : g.judge id body = .error (.unknownProfile id) := by rw [judge, hgate]
    rw [hjudge]
    exact .unknown hgate
  | some gate =>
    have hsome : (g.gate? id).isSome = true := by rw [hgate]; rfl
    have hjudge : g.judge id body = gate.check body := by rw [judge, hgate]
    rw [hjudge]
    rcases hcheck : gate.check body with e | ⟨_ | r, n⟩
    · have hcode := Gate.code_mem_of_check hcheck
      rw [traces_of_code_ne id elapsed hcode]
      exact .failed e hsome hcode
    · exact .allowed n hsome
    · exact .rejected r n hsome (Gate.metricKind_mem_of_check hcheck)

/-! ### Any calls -/

theorem judge_act (g : Gateway) (a : Action) : (g.act a).judge = g.judge := by
  funext id body
  rw [judge, gate?_congr (g.gates_act a)]
  rfl

/-- What a call leaves behind. -/
def tracesOf (g : Gateway) (call : Call) : List Trace :=
  traces call.profileId call.elapsed (g.judge call.profileId call.body)

theorem registry_after_calls (g : Gateway) (calls : List Call) :
    (g.after (calls.map .check)).registry =
      (calls.flatMap g.tracesOf).foldl Registry.record g.registry := by
  induction calls generalizing g with
  | nil => rfl
  | cons call rest ih =>
    have htraces : (g.act (.check call)).tracesOf = g.tracesOf := by
      funext other
      rw [tracesOf, judge_act]
      rfl
    have hrest := ih (g.act (.check call))
    rw [htraces] at hrest
    rw [List.flatMap_cons, List.foldl_append]
    exact hrest

end Gateway

end ScriptGate
