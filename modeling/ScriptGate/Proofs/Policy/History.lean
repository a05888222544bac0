import Mathlib.Data.List.DropRight
import ScriptGate.Policy.Evaluation
import ScriptGate.Profile.Name
import ScriptGate.Proofs.Policy.Listing

/-! What a policy says after any history of use.

A host lists names, sets switches, shows trees to a policy and rebuilds it, in any
order (`Policy.Action`). What can be asked of a policy is a view of it, and an action
either writes a view or leaves it alone, so in the end a view shows what was written
last. For the switches that is the last write of the whole history (`after_view`). The
lists and the last refusal do not outlive a rebuild, so for them it is the last write
since then (`after_view_recent`). `after_eq_last` puts the views together. -/
namespace ScriptGate

inductive Switch where
  | whileLoops | untilLoops | definedTest | strictIdentifiers | strictConstants
  deriving DecidableEq, Repr

/-- How a switch stands. -/
def Options.value (o : Options) : Switch → Bool
  | .whileLoops => o.permitWhileLoops
  | .untilLoops => o.permitUntilLoops
  | .definedTest => o.permitDefined
  | .strictIdentifiers => o.strictIdentifiers
  | .strictConstants => o.strictConstants

/-- The seed names of a sort. -/
def NameSort.seeds : NameSort → List String
  | .call => Seeds.deniedCalls
  | .constant => Seeds.deniedConstants

/-- The switch that decides the names of a sort that are not listed. -/
def NameSort.strictness : NameSort → Switch
  | .call => .strictIdentifiers
  | .constant => .strictConstants

/-- The last of the values that a function finds in a list. -/
def lastOf {α β : Type} (f : α → Option β) (l : List α) : Option β := (l.filterMap f).getLast?

theorem lastOf_concat {α β : Type} (f : α → Option β) (l : List α) (a : α) :
    lastOf f (l ++ [a]) = (f a).or (lastOf f l) := by
  unfold lastOf
  cases h : f a <;> simp [List.filterMap_append, h]

theorem lastOf_cons {α β : Type} (f : α → Option β) (a : α) (l : List α) :
    lastOf f (a :: l) = (lastOf f l).or (f a) := by
  unfold lastOf
  cases h : f a <;> simp [h, List.getLast?_cons]

/-- What every step writes or leaves alone is in the end as it was last written. -/
theorem foldl_view_or {σ α β : Type} (step : σ → α → σ) (view : σ → Option β)
    (writes : α → Option β) (hstep : ∀ s a, view (step s a) = (writes a).or (view s)) (s : σ)
    (l : List α) : view (l.foldl step s) = (lastOf writes l).or (view s) := by
  induction l generalizing s with
  | nil => rfl
  | cons a l ih => rw [List.foldl_cons, ih, hstep, lastOf_cons, Option.or_assoc]

theorem foldl_view {σ α β : Type} (step : σ → α → σ) (view : σ → β) (writes : α → Option β)
    (hstep : ∀ s a, view (step s a) = (writes a).getD (view s)) (s : σ) (l : List α) :
    view (l.foldl step s) = (lastOf writes l).getD (view s) := by
  have hsome := foldl_view_or step (fun s => some (view s)) writes
    (fun s a => by rw [hstep, Option.or_some]) s l
  rwa [Option.or_some, Option.some.injEq] at hsome

theorem lastOf_eq_none_iff {α β : Type} (f : α → Option β) (l : List α) :
    lastOf f l = none ↔ ∀ a ∈ l, f a = none := by
  simp [lastOf]

namespace Policy

/-- The list of names of a sort. -/
def names (p : Policy) : NameSort → GrayList
  | .call => p.identifiers
  | .constant => p.constants

def nameAllowed (p : Policy) : NameSort → String → Bool
  | .call => p.identifierAllowed
  | .constant => p.constantAllowed

/-! ### Histories -/

/-- What a host does with a policy. -/
inductive Action where
  | list (sort : NameSort) (as : Listing) (name : String)
  | set (switch : Switch) (on : Bool)
  | visit (tree : Node)
  | evaluate (tree : Node)
  | rebuild

def act (p : Policy) : Action → Policy
  | .list .call .allowed name => p.allowIdentifier name
  | .list .call .denied name => p.denyIdentifier name
  | .list .constant .allowed name => p.allowConstant name
  | .list .constant .denied name => p.denyConstant name
  | .set .whileLoops on => p.setPermitWhileLoops on
  | .set .untilLoops on => p.setPermitUntilLoops on
  | .set .definedTest on => p.setPermitDefined on
  | .set .strictIdentifiers on => p.setStrictIdentifiers on
  | .set .strictConstants on => p.setStrictConstants on
  | .visit tree => (p.visit tree).2
  | .evaluate _ => p
  | .rebuild => p.rebuild

def after (p : Policy) (actions : List Action) : Policy := actions.foldl act p

theorem after_concat (p : Policy) (actions : List Action) (a : Action) :
    p.after (actions ++ [a]) = (p.after actions).act a := by
  simp only [after, List.foldl_append, List.foldl_cons, List.foldl_nil]

/-- An action, and the policy as it was when the action was taken. -/
structure Moment where
  policy : Policy
  action : Action

def moments (p : Policy) : List Action → List Moment
  | [] => []
  | a :: rest => ⟨p, a⟩ :: (p.act a).moments rest

theorem moments_concat (p : Policy) (actions : List Action) (a : Action) :
    p.moments (actions ++ [a]) = p.moments actions ++ [⟨p.after actions, a⟩] := by
  induction actions generalizing p with
  | nil => rfl
  | cons b rest ih => exact congrArg _ (ih (p.act b))

namespace Action

def isRebuild : Action → Bool
  | .rebuild => true
  | _ => false

/-- What the action sets this switch to, if it does. -/
def sets? (switch : Switch) : Action → Option Bool
  | .set other on => if other = switch then some on else none
  | _ => none

/-- How the action lists this name among those of this sort, if it does. -/
def lists? (sort : NameSort) (name : String) : Action → Option Listing
  | .list other as given => if other = sort ∧ given = name then some as else none
  | _ => none

end Action

/-- The message with which a tree is refused at this moment, if one is visited and is. -/
def Moment.refusal? (m : Moment) : Option String :=
  match m.action with
  | .visit tree => (m.policy.evaluate tree).message
  | _ => none

/-- What happened since the last rebuild. -/
def recent (ms : List Moment) : List Moment := ms.rtakeWhile fun m => !m.action.isRebuild

theorem recent_concat_of_rebuild (ms : List Moment) {m : Moment} (h : m.action.isRebuild = true) :
    recent (ms ++ [m]) = [] := by
  rw [recent, List.rtakeWhile_concat_neg]
  simp [h]

theorem recent_concat (ms : List Moment) {m : Moment} (h : m.action.isRebuild = false) :
    recent (ms ++ [m]) = recent ms ++ [m] := by
  rw [recent, List.rtakeWhile_concat_pos]
  · rfl
  · simp [h]

/-! ### Views show what was written last -/

section Views
variable {β : Type}

/-- A view that every action writes or leaves alone shows the last write. -/
theorem after_view (view : Policy → β) (writes : Action → Option β)
    (hact : ∀ p a, view (p.act a) = (writes a).getD (view p)) (p : Policy)
    (actions : List Action) :
    view (p.after actions) = (lastOf writes actions).getD (view p) :=
  foldl_view act view writes hact p actions

/-- A view that is `fresh` on every new policy, and that every action but a rebuild writes or
leaves alone, shows the last write since the last rebuild. -/
theorem after_view_recent (view : Policy → Option β) (writes : Moment → Option β)
    {fresh : Option β} (hfresh : ∀ o, view (ofOptions o) = fresh)
    (hact : ∀ p a, a.isRebuild = false → view (p.act a) = (writes ⟨p, a⟩).or (view p))
    (o : Options) (actions : List Action) :
    view ((ofOptions o).after actions) =
      (lastOf writes (recent ((ofOptions o).moments actions))).or fresh := by
  induction actions using List.reverseRecOn with
  | nil => exact hfresh o
  | append_singleton actions a ih =>
    rw [after_concat, moments_concat]
    cases hr : a.isRebuild with
    | true =>
      rw [recent_concat_of_rebuild _ hr]
      cases a with
      | rebuild => exact hfresh _
      | _ => cases hr
    | false => rw [hact _ a hr, ih, recent_concat _ hr, lastOf_concat, Option.or_assoc]

end Views

/-! ### The views -/

/-- On a new policy the seed names are denied and nothing else is listed. -/
theorem names_ofOptions (o : Options) (sort : NameSort) :
    (ofOptions o).names sort = (GrayList.empty (o.value sort.strictness)).denyAll sort.seeds := by
  cases sort <;> rfl

theorem strict_names_ofOptions (o : Options) (sort : NameSort) :
    ((ofOptions o).names sort).strict = o.value sort.strictness := by
  rw [names_ofOptions, GrayList.denyAll, GrayList.deny_eq_put, GrayList.strict_foldl_put,
    GrayList.strict_empty]

/-- Options come through a policy unchanged. -/
theorem options_ofOptions (o : Options) : (ofOptions o).options = o := by
  have hcall := strict_names_ofOptions o .call
  have hconstant := strict_names_ofOptions o .constant
  simp only [names, NameSort.strictness, Options.value] at hcall hconstant
  simp only [options, hcall, hconstant]
  rfl

theorem listing_names_ofOptions (o : Options) (sort : NameSort) (name : String) :
    ((ofOptions o).names sort).listing name =
      if name ∈ sort.seeds then some .denied else none := by
  rw [names_ofOptions, GrayList.denyAll, GrayList.deny_eq_put, GrayList.listing_foldl_put,
    GrayList.listing_empty]

theorem visit_eq (p : Policy) (tree : Node) :
    p.visit tree = ((p.evaluate tree).isAllowed,
      { p with lastRefusal := (p.evaluate tree).message.or p.lastRefusal }) := by
  unfold visit Evaluation.message Evaluation.isAllowed
  cases (p.evaluate tree).rejection <;> rfl

theorem options_act (p : Policy) (a : Action) (switch : Switch) :
    (p.act a).options.value switch = (a.sets? switch).getD (p.options.value switch) := by
  cases a with
  | list sort as name => cases sort <;> cases as <;> rfl
  | set other on => cases other <;> cases switch <;> rfl
  | visit tree =>
    rw [act, visit_eq]
    rfl
  | evaluate tree => rfl
  | rebuild =>
    rw [act, rebuild, options_ofOptions]
    rfl

theorem listing_act (p : Policy) (a : Action) (ha : a.isRebuild = false) (sort : NameSort)
    (name : String) :
    ((p.act a).names sort).listing name =
      (a.lists? sort name).or ((p.names sort).listing name) := by
  cases a with
  | list other as given =>
    -- On the list of the other sort nothing is put.
    cases sort <;> cases other <;> cases as <;>
      simp only [act, names, allowIdentifier, denyIdentifier, allowConstant, denyConstant,
        GrayList.allow, GrayList.deny, GrayList.listing_put, Action.lists?] <;>
      grind
  | set switch on => cases switch <;> cases sort <;> rfl
  | visit tree =>
    rw [act, visit_eq]
    cases sort <;> rfl
  | evaluate tree => rfl
  | rebuild => cases ha

theorem lastRefusal_act (p : Policy) (a : Action) (ha : a.isRebuild = false) :
    (p.act a).lastRefusal = (Moment.refusal? ⟨p, a⟩).or p.lastRefusal := by
  cases a with
  | list sort as name => cases sort <;> cases as <;> rfl
  | set switch on => cases switch <;> rfl
  | visit tree =>
    rw [act, visit_eq]
    rfl
  | evaluate tree => rfl
  | rebuild => cases ha

theorem nameAllowed_eq (p : Policy) (sort : NameSort) (name : String) :
    p.nameAllowed sort name =
      match (p.names sort).listing name with
      | some as => as == .allowed
      | none => !p.options.value sort.strictness := by
  have hallows : p.nameAllowed sort name = (p.names sort).allows name := by cases sort <;> rfl
  have hstrict : p.options.value sort.strictness = (p.names sort).strict := by cases sort <;> rfl
  rw [hallows, hstrict, GrayList.allows]
  rcases (p.names sort).listing name with _ | _ | _ <;> rfl

/-- **After any history the last writer wins, list by list and switch by switch, and the
diagnostic is that of the last refusal.** A switch stands as it was last set. A name is
allowed as it was last listed among its sort since the last rebuild; one that was not is
refused if it is a seed name and otherwise left to the switch. A visit answers what an
evaluation would. The message kept is that of the last tree refused since the last
rebuild, and nothing but a refusal or a rebuild changes it. -/
theorem after_eq_last (o : Options) (actions : List Action) :
    let p := (ofOptions o).after actions
    let since := recent ((ofOptions o).moments actions)
    (∀ switch, p.options.value switch =
      (lastOf (·.sets? switch) actions).getD (o.value switch)) ∧
    (∀ sort name, p.nameAllowed sort name =
      match lastOf (·.action.lists? sort name) since with
      | some as => as == .allowed
      | none => if name ∈ sort.seeds then false else !p.options.value sort.strictness) ∧
    (∀ tree, (p.visit tree).1 = (p.evaluate tree).isAllowed) ∧
    p.lastRefusal = lastOf Moment.refusal? since ∧
    ∀ a, a.isRebuild = false → Moment.refusal? ⟨p, a⟩ = none →
      (p.act a).lastRefusal = p.lastRefusal := by
  intro p since
  refine ⟨fun switch => ?_, fun sort name => ?_, fun tree => ?_, ?_, fun a ha hnone => ?_⟩
  · have h := after_view (·.options.value switch) (·.sets? switch)
      (fun p a => options_act p a switch) (ofOptions o) actions
    rwa [options_ofOptions] at h
  · have hlisting : (p.names sort).listing name =
        (lastOf (·.action.lists? sort name) since).or
          (if name ∈ sort.seeds then some .denied else none) :=
      after_view_recent (fun p => (p.names sort).listing name) (·.action.lists? sort name)
        (fun o => listing_names_ofOptions o sort name)
        (fun p a ha => listing_act p a ha sort name) o actions
    rw [nameAllowed_eq, hlisting]
    cases lastOf (·.action.lists? sort name) since with
    | some as => rfl
    | none => by_cases hs : name ∈ sort.seeds <;> simp [hs]
  · rw [visit_eq]
  · have h := after_view_recent lastRefusal Moment.refusal? (fun _ => rfl) lastRefusal_act o actions
    rwa [Option.or_none] at h
  · rw [lastRefusal_act p a ha, hnone, Option.none_or]

end Policy

end ScriptGate
