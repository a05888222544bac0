import ScriptGate.Proofs.Policy.FirstOffender
import ScriptGate.Proofs.Policy.History

/-! A looser policy is never harder on a tree.

Permitting more lets a walk into parts of a tree that it did not see before, so two
policies may stop at different nodes. But a node that the looser one refuses the other
one refuses too, and with the same words (`Policy.refuse_of_looser`). So the looser walk
comes at least as far, and where both end at one node they say the same
(`Policy.evaluate_eased`). Each thing that a host can do to a policy's lists and switches
makes it looser or tighter (`Policy.looser_act`, `Policy.act_looser`). -/
namespace ScriptGate

/-- Turning the switch on refuses more, not less. -/
def Switch.isStrictness : Switch → Bool
  | .strictIdentifiers | .strictConstants => true
  | .whileLoops | .untilLoops | .definedTest => false

/-- The second policy lets a script use whatever the first one does. -/
structure Policy.Looser (p q : Policy) : Prop where
  identifier : ∀ name, p.identifierAllowed name = true → q.identifierAllowed name = true
  constant : ∀ name, p.constantAllowed name = true → q.constantAllowed name = true
  whileLoops : p.permitWhileLoops = true → q.permitWhileLoops = true
  untilLoops : p.permitUntilLoops = true → q.permitUntilLoops = true
  definedTest : p.permitDefined = true → q.permitDefined = true

/-- The second verdict is no harder than the first: it allows what the first one allows, comes
at least as far, and refuses only what the first one refuses, for the same reason if both
come equally far. -/
structure Evaluation.Eased (e e' : Evaluation) : Prop where
  allowed : e.isAllowed = true → e'.isAllowed = true
  visited : e.nodesVisited ≤ e'.nodesVisited
  rejected : ∀ r', e'.rejection = some r' →
    ∃ r, e.rejection = some r ∧ (e.nodesVisited = e'.nodesVisited → r = r')

namespace Policy

variable {p q : Policy}

/-! ### One node, then a tree -/

/-- What is refused unless it is permitted is refused where no more is permitted. -/
theorem token_of_imp {a b : Bool} (h : a = true → b = true) {text token : String}
    (hb : (if b then none else some text) = some token) :
    (if a then none else some text) = some token := by
  cases a with
  | false =>
    cases b with
    | false => exact hb
    | true => cases hb
  | true =>
    rw [h rfl] at hb
    cases hb

theorem refusedToken_of_looser (h : p.Looser q) {kind : Kind} {name token : String}
    (hq : q.refusedToken kind name = some token) : p.refusedToken kind name = some token := by
  cases kind with
  | identifier | call => exact token_of_imp (h.identifier name) hq
  | constant => exact token_of_imp (h.constant name) hq
  | whileLoop | whileMod => exact token_of_imp h.whileLoops hq
  | untilLoop | untilMod => exact token_of_imp h.untilLoops hq
  | definedTest => exact token_of_imp h.definedTest hq
  | _ => exact hq

/-- A node that the looser policy refuses is refused by the other one in the same words. -/
theorem refuse_of_looser (h : p.Looser q) {n : Node} {r : Rejection} (hq : q.refuse n = some r) :
    p.refuse n = some r := by
  cases n with
  | unrecognized tag => exact hq
  | known kind fs =>
    obtain ⟨token, htoken, rfl⟩ := Option.map_eq_some_iff.mp hq
    exact Option.map_eq_some_iff.mpr ⟨token, refusedToken_of_looser h htoken, rfl⟩

/-- Of two places in one list, the one before which the other's node does not stand comes no
later. -/
theorem split_le_of_not_mem {before before' after after' : List Node} {n n' : Node}
    (h : before ++ n :: after = before' ++ n' :: after') (hn : n' ∉ before) :
    before.length ≤ before'.length ∧ (before.length = before'.length → n = n') := by
  rcases List.append_eq_append_iff.mp h with ⟨between, rfl, htail⟩ | ⟨between, rfl, htail⟩
  · rw [List.length_append]
    refine ⟨Nat.le_add_right _ _, fun hlength => ?_⟩
    have hnil : between = [] := List.eq_nil_of_length_eq_zero (by omega)
    subst hnil
    exact (List.cons.inj htail).1
  · cases between with
    | nil => exact ⟨by simp, fun _ => (List.cons.inj htail).1.symm⟩
    | cons m between =>
      obtain rfl := (List.cons.inj htail).1
      exact absurd (List.mem_append_right before' List.mem_cons_self) hn

theorem nodesVisited_le (p : Policy) (t : Node) : (p.evaluate t).nodesVisited ≤ t.preorder.length := by
  rcases p.evaluate_cases t with ⟨_, he⟩ | ⟨before, n, after, r, ht, _, _, he⟩
  · rw [he]
  · rw [he, ht, List.length_append, List.length_cons]
    show before.length + 1 ≤ before.length + (after.length + 1)
    omega

/-- A looser policy is no harder on any tree. -/
theorem evaluate_eased (h : p.Looser q) (t : Node) : (p.evaluate t).Eased (q.evaluate t) := by
  rcases q.evaluate_cases t with ⟨_, hq⟩ | ⟨before', n', after', r', ht', _, hn', hq⟩
  · rw [hq]
    exact ⟨fun _ => rfl, p.nodesVisited_le t, nofun⟩
  · have hrefused : p.refuse n' = some r' := refuse_of_looser h hn'
    rcases p.evaluate_cases t with ⟨hall, _⟩ | ⟨before, n, after, r, ht, hbefore, hn, hp⟩
    · have hmem : n' ∈ t.preorder := ht' ▸ List.mem_append_right before' List.mem_cons_self
      rw [hall n' hmem] at hrefused
      cases hrefused
    · -- The node at which the looser walk ends would have ended the other one too.
      have hlater : n' ∉ before := by
        intro hmem
        rw [hbefore n' hmem] at hrefused
        cases hrefused
      obtain ⟨hle, hsame⟩ := split_le_of_not_mem (ht.symm.trans ht') hlater
      rw [hp, hq]
      refine ⟨nofun, Nat.succ_le_succ hle, fun r'' hr'' => ⟨r, rfl, fun hcount => ?_⟩⟩
      obtain rfl := Option.some.inj hr''
      rw [← hsame (Nat.succ.inj hcount), hn] at hrefused
      exact Option.some.inj hrefused

/-! ### What a host does to a policy -/

/-- Whether an action is meant to let a script use more or less, if it is about that at all:
allowing or denying a name, or setting a switch. -/
def Action.loosens? : Action → Option Bool
  | .list _ as _ => some (as == .allowed)
  | .set switch on => some (on != switch.isStrictness)
  | .visit _ | .evaluate _ | .rebuild => none

theorem isStrictness_strictness (sort : NameSort) : sort.strictness.isStrictness = true := by
  cases sort <;> rfl

section Act
variable {a : Action} {more : Bool} (h : a.loosens? = some more)
include h

theorem isRebuild_of_loosens? : a.isRebuild = false := by
  cases a with
  | rebuild => cases h
  | _ => rfl

/-- What is said of a name changes to what the action means, or not at all. -/
theorem nameAllowed_act (p : Policy) (sort : NameSort) (name : String) :
    (p.act a).nameAllowed sort name = p.nameAllowed sort name ∨
      (p.act a).nameAllowed sort name = more := by
  rw [nameAllowed_eq, nameAllowed_eq, listing_act p a (isRebuild_of_loosens? h), options_act]
  cases a with
  | list other as given =>
    obtain rfl := Option.some.inj h
    by_cases hlisted : other = sort ∧ given = name
    · exact .inr (by simp [Action.lists?, hlisted])
    · exact .inl (by simp [Action.lists?, Action.sets?, hlisted])
  | set other on =>
    obtain rfl := Option.some.inj h
    by_cases hother : other = sort.strictness
    · -- A name that is listed does not notice.
      cases (p.names sort).listing name with
      | some as => exact .inl rfl
      | none => exact .inr (by simp [Action.lists?, Action.sets?, hother, isStrictness_strictness])
    · exact .inl (by simp [Action.lists?, Action.sets?, hother])
  | _ => cases h

/-- A switch that permits something is set to what the action means, or not at all. -/
theorem value_act (p : Policy) {switch : Switch} (hswitch : switch.isStrictness = false) :
    (p.act a).options.value switch = p.options.value switch ∨
      (p.act a).options.value switch = more := by
  rw [options_act]
  cases a with
  | list other as given => exact .inl rfl
  | set other on =>
    obtain rfl := Option.some.inj h
    by_cases hother : other = switch
    · exact .inr (by simp [Action.sets?, hother, hswitch])
    · exact .inl (by simp [Action.sets?, hother])
  | _ => cases h

end Act

/-- A policy is looser if it is so in every name and in every switch that permits something. -/
theorem looser_of_views
    (hname : ∀ sort name, p.nameAllowed sort name = true → q.nameAllowed sort name = true)
    (hswitch : ∀ switch, switch.isStrictness = false → p.options.value switch = true →
      q.options.value switch = true) : p.Looser q where
  identifier := hname .call
  constant := hname .constant
  whileLoops := hswitch .whileLoops rfl
  untilLoops := hswitch .untilLoops rfl
  definedTest := hswitch .definedTest rfl

theorem looser_act (p : Policy) {a : Action} (h : a.loosens? = some true) : p.Looser (p.act a) := by
  refine looser_of_views (fun sort name hp => ?_) (fun switch hswitch hp => ?_)
  · rcases nameAllowed_act h p sort name with hsame | htrue
    · exact hsame.trans hp
    · exact htrue
  · rcases value_act h p hswitch with hsame | htrue
    · exact hsame.trans hp
    · exact htrue

theorem act_looser (p : Policy) {a : Action} (h : a.loosens? = some false) : (p.act a).Looser p := by
  refine looser_of_views (fun sort name hp => ?_) (fun switch hswitch hp => ?_)
  · rcases nameAllowed_act h p sort name with hsame | hfalse
    · exact hsame.symm.trans hp
    · cases hfalse.symm.trans hp
  · rcases value_act h p hswitch with hsame | hfalse
    · exact hsame.symm.trans hp
    · cases hfalse.symm.trans hp

/-- **Loosening a policy never tightens a verdict.** Where one policy lets a script use all
that another one does, it allows every tree that the other one allows, visits at least as
many nodes of every tree, and refuses only what the other one refuses, for the same reason
if both end at one node. Allowing a name, permitting a construct and lifting strictness do
this to every policy, and their opposites do the reverse. -/
theorem evaluate_of_looser (p : Policy) (t : Node) :
    (∀ q, p.Looser q → (p.evaluate t).Eased (q.evaluate t)) ∧
    (∀ a : Action, a.loosens? = some true → (p.evaluate t).Eased ((p.act a).evaluate t)) ∧
    ∀ a : Action, a.loosens? = some false → ((p.act a).evaluate t).Eased (p.evaluate t) := by
  refine ⟨fun q h => ?_, fun a h => ?_, fun a h => ?_⟩
  · exact evaluate_eased h t
  · exact evaluate_eased (looser_act p h) t
  · exact evaluate_eased (act_looser p h) t

/-- A loop around a denied call: once loops are permitted, the call is found. -/
theorem evaluate_of_looser_while :
    let loop : Node := .known .whileLoop <|
      .cons (.child (.keyword "true")) <| .cons (.child (.call none "eval" [])) .nil
    let p := ofOptions {}
    let q := p.act (.set .whileLoops true)
    p.evaluate loop = ⟨some ⟨.known .whileLoop, "while"⟩, 1⟩ ∧
    q.evaluate loop = ⟨some ⟨.known .call, "eval"⟩, 3⟩ ∧
    p.Looser q ∧ (p.evaluate loop).Eased (q.evaluate loop) ∧
    ((p.act (.set .whileLoops false)).evaluate loop).Eased (p.evaluate loop) := by
  intro loop p q
  have hlooser : p.Looser q := looser_act p rfl
  obtain ⟨heased, -, htightened⟩ := evaluate_of_looser p loop
  exact ⟨by decide +kernel, by decide +kernel, hlooser, heased q hlooser, htightened _ rfl⟩

end Policy

end ScriptGate
