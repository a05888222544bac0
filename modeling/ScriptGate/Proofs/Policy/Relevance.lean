import ScriptGate.Proofs.Policy.FirstOffender
import ScriptGate.Proofs.Policy.History

/-! What a verdict depends on.

A verdict is put together from the policy's objections to the nodes in turn
(`Policy.evaluate_congr`). So it does not notice what no objection notices: in a tree, the
texts that no rule reads (`Node.outline` leaves them out); in a policy, everything but the
switches that permit something and what it says of the names that the tree uses
(`Policy.AgreeOn`). A host can therefore show trees to a policy, list names that a tree
does not use and be strict about names that it does not use, and get the same verdict on
that tree (`Policy.agreeOn_after`). -/
namespace ScriptGate

/-! ### Texts that no rule reads -/

/-- No rule reads the texts of a node of this kind. -/
def Kind.textIsIdle : Kind → Bool
  | .alias | .binary | .char | .float | .instanceVariable | .instanceVariableAssignment
  | .integer | .label | .localVariableAssignment | .methodDef | .symbol | .unary => true
  | _ => false

mutual

/-- The tree with every text left empty that no rule reads. -/
def Node.outline : Node → Node
  | .known kind fs => .known kind (fs.outline kind.textIsIdle)
  | .unrecognized tag => .unrecognized tag

def Fields.outline (idle : Bool) : {layout : Layout} → Fields layout → Fields layout
  | _, .nil => .nil
  | _, .cons c tail => .cons (c.outline idle) (tail.outline idle)

def Content.outline (idle : Bool) : {slot : Slot} → Content slot → Content slot
  | _, .token text => .token (if idle then "" else text)
  | _, .child n => .child n.outline
  | _, .optional none => .optional none
  | _, .optional (some n) => .optional (some n.outline)
  | _, .list ns => .list (outlineNodes ns)
  | _, .parts ps => .parts (outlineParts ps)

def outlineNodes : List Node → List Node
  | [] => []
  | n :: ns => n.outline :: outlineNodes ns

def outlineParts : List Part → List Part
  | [] => []
  | p :: ps => p.outline :: outlineParts ps

def Part.outline : Part → Part
  | .fragment _ => .fragment ""
  | .embedded n => .embedded n.outline

end

theorem outlineNodes_eq (ns : List Node) : outlineNodes ns = ns.map Node.outline := by
  induction ns with
  | nil => rfl
  | cons n ns ih => rw [outlineNodes, ih, List.map_cons]

theorem filterMap_outlineParts (ps : List Part) :
    (outlineParts ps).filterMap Part.node? = (ps.filterMap Part.node?).map Node.outline := by
  induction ps with
  | nil => rfl
  | cons p ps ih =>
    cases p with
    | fragment text => exact ih
    | embedded n => exact congrArg (n.outline :: ·) ih

theorem Fields.children_outline (idle : Bool) {layout : Layout} (fs : Fields layout) :
    (fs.outline idle).children = fs.children.map Node.outline := by
  induction fs using Fields.induction with
  | nil => rfl
  | cons c tail ih =>
    have hc : (c.outline idle).children = c.children.map Node.outline := by
      cases c with
      | token text => rfl
      | child n => rfl
      | optional o => cases o <;> rfl
      | list ns => exact outlineNodes_eq ns
      | parts ps => exact filterMap_outlineParts ps
    rw [Fields.outline, Fields.children, Fields.children, hc, ih, List.map_append]

/-- The outline has the outlines of the nodes, in the same order. -/
theorem Node.preorder_outline (t : Node) : t.outline.preorder = t.preorder.map Node.outline := by
  induction t using Node.induction with
  | unrecognized tag => rfl
  | known kind fs ih =>
    rw [Node.outline, Node.preorder_known, Node.preorder_known, List.map_cons, Node.outline,
      Fields.children_outline, List.flatMap_map, List.map_flatMap]
    congr 1
    exact List.flatMap_congr ih

theorem Fields.name_outline {layout : Layout} (fs : Fields layout) :
    (fs.outline false).name = fs.name := by
  induction fs using Fields.induction with
  | nil => rfl
  | cons c tail ih =>
    cases c with
    | optional o => cases o <;> exact ih
    | token text => rfl
    | _ => exact ih

namespace Policy

variable {p q : Policy} {t : Node}

/-- Where the texts are idle, what is refused does not depend on them. -/
theorem refusedToken_of_idle (p : Policy) {kind : Kind} (h : kind.textIsIdle = true)
    (name name' : String) : p.refusedToken kind name = p.refusedToken kind name' := by
  cases kind with
  | keyword | identifier | call | constant | classVariable | classVariableAssignment
  | globalVariable | globalVariableAssignment => cases h
  | _ => rfl

theorem refuse_outline (p : Policy) (n : Node) : p.refuse n.outline = p.refuse n := by
  cases n with
  | unrecognized tag => rfl
  | known kind fs =>
    rw [Node.outline, refuse, refuse]
    congr 1
    cases hidle : kind.textIsIdle with
    | true => exact p.refusedToken_of_idle hidle _ _
    | false => rw [fs.name_outline]

/-! ### Verdicts from objections -/

theorem scan_congr {s t : List Node} (h : s.map p.refuse = t.map q.refuse) (visited : Nat) :
    p.scan s visited = q.scan t visited := by
  induction s generalizing t visited with
  | nil =>
    obtain rfl := List.map_eq_nil_iff.mp h.symm
    rfl
  | cons n ns ih =>
    obtain ⟨m, ms, rfl, hm, hms⟩ := List.map_eq_cons_iff.mp h.symm
    rw [scan, scan, hm]
    cases p.refuse n with
    | some rejection => rfl
    | none => exact ih hms.symm _

/-- Verdicts are the same if the objections to the nodes in turn are. -/
theorem evaluate_congr {s : Node} (h : s.preorder.map p.refuse = t.preorder.map q.refuse) :
    p.evaluate s = q.evaluate t := by
  rw [evaluate, evaluate, s.walk_eq, t.walk_eq, scan_congr h]

theorem evaluate_outline (p : Policy) (t : Node) : p.evaluate t.outline = p.evaluate t := by
  apply evaluate_congr
  rw [t.preorder_outline, List.map_map]
  exact List.map_congr_left fun n _ => p.refuse_outline n

end Policy

/-! ### Names that a tree uses -/

/-- The name of this sort that a node uses. -/
def Node.usedName? : NameSort → Node → Option String
  | .call, .known .identifier fs => some fs.name
  | .call, .known .call fs => some fs.name
  | .constant, .known .constant fs => some fs.name
  | _, _ => none

/-- The names of this sort that are used somewhere in a tree. -/
def Node.usedNames (t : Node) (sort : NameSort) : List String :=
  t.preorder.filterMap (Node.usedName? sort)

theorem NameSort.strictness_inj {sort other : NameSort} (h : sort.strictness = other.strictness) :
    sort = other := by
  cases sort <;> cases other <;> trivial

namespace Policy

variable {p q : Policy} {t : Node}

/-- Two policies permit the same constructs and say the same of every name that a tree uses. -/
structure AgreeOn (t : Node) (p q : Policy) : Prop where
  whileLoops : p.permitWhileLoops = q.permitWhileLoops
  untilLoops : p.permitUntilLoops = q.permitUntilLoops
  definedTest : p.permitDefined = q.permitDefined
  name : ∀ sort, ∀ name ∈ t.usedNames sort, p.nameAllowed sort name = q.nameAllowed sort name

theorem refuse_of_agreeOn (h : AgreeOn t p q) {n : Node} (hn : n ∈ t.preorder) :
    p.refuse n = q.refuse n := by
  have hname (sort : NameSort) (name : String) (hused : n.usedName? sort = some name) :
      p.nameAllowed sort name = q.nameAllowed sort name :=
    h.name sort name (List.mem_filterMap.mpr ⟨n, hn, hused⟩)
  cases n with
  | unrecognized tag => rfl
  | known kind fs =>
    rw [refuse, refuse]
    congr 1
    cases kind with
    | identifier | call =>
      have hcall : p.identifierAllowed fs.name = q.identifierAllowed fs.name :=
        hname .call fs.name rfl
      simp only [refusedToken, hcall]
    | constant =>
      have hconstant : p.constantAllowed fs.name = q.constantAllowed fs.name :=
        hname .constant fs.name rfl
      simp only [refusedToken, hconstant]
    | whileLoop | whileMod => simp only [refusedToken, h.whileLoops]
    | untilLoop | untilMod => simp only [refusedToken, h.untilLoops]
    | definedTest => simp only [refusedToken, h.definedTest]
    | _ => rfl

theorem evaluate_of_agreeOn (h : AgreeOn t p q) : p.evaluate t = q.evaluate t :=
  evaluate_congr (List.map_congr_left fun _ hn => refuse_of_agreeOn h hn)

/-! ### Actions apart from a tree -/

/-- The action lists a name that the tree does not use, sets a strictness for which all names
that the tree uses are listed, or only looks at a tree. -/
def Action.Apart (p : Policy) (t : Node) : Action → Prop
  | .list sort _ name => name ∉ t.usedNames sort
  | .set switch _ => ∃ sort : NameSort, switch = sort.strictness ∧
      ∀ name ∈ t.usedNames sort, ((p.names sort).listing name).isSome = true
  | .visit _ | .evaluate _ => True
  | .rebuild => False

section Apart
variable {actions : List Action} (h : ∀ a ∈ actions, a.Apart p t)
include h

theorem listing_after_of_apart {sort : NameSort} {name : String}
    (hname : name ∈ t.usedNames sort) :
    ((p.after actions).names sort).listing name = (p.names sort).listing name := by
  induction actions using List.reverseRecOn with
  | nil => rfl
  | append_singleton actions a ih =>
    obtain ⟨hactions, ha⟩ := List.forall_mem_append.mp h
    have ha : a.Apart p t := ha a List.mem_cons_self
    have hrebuild : a.isRebuild = false := by
      cases a with
      | rebuild => cases ha
      | _ => rfl
    have hlists : a.lists? sort name = none := by
      cases a with
      | list other as given =>
        refine if_neg ?_
        rintro ⟨rfl, rfl⟩
        exact ha hname
      | _ => rfl
    rw [after_concat, listing_act _ a hrebuild, hlists, Option.none_or, ih hactions]

/-- A switch stays as it is, unless it is the strictness for names that are all listed. -/
theorem value_after_of_apart {switch : Switch}
    (hswitch : ∀ sort : NameSort, switch = sort.strictness →
      ∃ name ∈ t.usedNames sort, (p.names sort).listing name = none) :
    (p.after actions).options.value switch = p.options.value switch := by
  have hsets : ∀ a ∈ actions, a.sets? switch = none := by
    intro a ha
    cases a with
    | set other on =>
      refine if_neg ?_
      rintro rfl
      obtain ⟨sort, hother, hlisted⟩ := h _ ha
      obtain ⟨name, hname, hnone⟩ := hswitch sort hother
      have hsome := hlisted name hname
      rw [hnone] at hsome
      cases hsome
    | _ => rfl
  have hlast : lastOf (·.sets? switch) actions = none := by
    rw [lastOf, List.filterMap_eq_nil_iff.mpr hsets, List.getLast?_nil]
  rw [after_view (·.options.value switch) (·.sets? switch) (fun p a => options_act p a switch),
    hlast, Option.getD_none]

theorem agreeOn_after : AgreeOn t (p.after actions) p := by
  have hpermits (switch : Switch) (hswitch : ∀ sort : NameSort, switch ≠ sort.strictness) :
      (p.after actions).options.value switch = p.options.value switch :=
    value_after_of_apart h fun sort hsort => absurd hsort (hswitch sort)
  refine ⟨hpermits .whileLoops ?_, hpermits .untilLoops ?_, hpermits .definedTest ?_, ?_⟩
  · rintro (_ | _) <;> nofun
  · rintro (_ | _) <;> nofun
  · rintro (_ | _) <;> nofun
  · intro sort name hname
    rw [nameAllowed_eq, nameAllowed_eq, listing_after_of_apart h hname]
    cases hlisting : (p.names sort).listing name with
    | some as => rfl
    | none =>
      have hstrict : (p.after actions).options.value sort.strictness =
          p.options.value sort.strictness := by
        refine value_after_of_apart h fun other hother => ?_
        obtain rfl := NameSort.strictness_inj hother
        exact ⟨name, hname, hlisting⟩
      exact congrArg (! ·) hstrict

end Apart

/-- **A verdict depends on the kinds of the nodes and on the names that the rules read, and on
nothing else.** Trees that differ only in texts that no rule reads get the same verdict, with
the same reason after the same number of nodes. So does a tree from policies that permit the
same constructs and say the same of the names it uses: listing other names, being strict
about other names and looking at trees before change nothing. -/
theorem evaluate_eq_of_relevant (p : Policy) (t : Node) :
    (∀ s : Node, s.outline = t.outline → p.evaluate s = p.evaluate t) ∧
    (∀ q, AgreeOn t p q → p.evaluate t = q.evaluate t) ∧
    ∀ actions, (∀ a ∈ actions, Action.Apart p t a) →
      (p.after actions).evaluate t = p.evaluate t := by
  refine ⟨fun s hs => ?_, fun q hq => evaluate_of_agreeOn hq, fun actions h => ?_⟩
  · calc p.evaluate s
      _ = p.evaluate s.outline := (p.evaluate_outline s).symm
      _ = p.evaluate t := by rw [hs, p.evaluate_outline t]
  · exact evaluate_of_agreeOn (agreeOn_after h)

/-- Two scripts that call what the seed names deny, on a policy that was strict in between. -/
theorem evaluate_eq_of_relevant_eval :
    let p := ofOptions {}
    let s : Node := .program [.string "a", .call none "eval" [.symbol "x"]]
    let t : Node := .program [.string "b", .call none "eval" [.symbol "y"]]
    let actions : List Action := [.visit s, .list .call .allowed "puts",
      .list .constant .allowed "eval", .set .strictIdentifiers true]
    p.evaluate t = ⟨some ⟨.known .call, "eval"⟩, 3⟩ ∧
    s.outline = t.outline ∧ p.evaluate s = p.evaluate t ∧
    (∀ a ∈ actions, a.Apart p t) ∧ (p.after actions).evaluate t = p.evaluate t ∧
    AgreeOn t p (p.setStrictIdentifiers true) ∧
      p.evaluate t = (p.setStrictIdentifiers true).evaluate t := by
  intro p s t actions
  have hcalls : t.usedNames .call = ["eval"] := rfl
  have hlisted : ∀ name ∈ t.usedNames .call, ((p.names .call).listing name).isSome = true := by
    rw [hcalls]
    decide +kernel
  have hapart : ∀ a ∈ actions, a.Apart p t := by
    simp only [actions, List.forall_mem_cons]
    refine ⟨trivial, ?_, List.not_mem_nil, ⟨.call, rfl, hlisted⟩, nofun⟩
    show "puts" ∉ t.usedNames .call
    rw [hcalls]
    decide
  have hagree : AgreeOn t p (p.setStrictIdentifiers true) := by
    refine ⟨rfl, rfl, rfl, fun sort name hname => ?_⟩
    cases sort with
    | call =>
      rw [hcalls, List.mem_singleton] at hname
      subst hname
      decide +kernel
    | constant => cases hname
  obtain ⟨htexts, hpolicies, hhistory⟩ := evaluate_eq_of_relevant p t
  exact ⟨by decide +kernel, rfl, htexts s rfl, hapart, hhistory actions hapart, hagree,
    hpolicies _ hagree⟩

end Policy

end ScriptGate
