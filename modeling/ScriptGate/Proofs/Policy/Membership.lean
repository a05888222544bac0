import Mathlib.Data.Finset.Card
import ScriptGate.Proofs.Policy.History

/-! Which names a gray list holds after any calls.

A call lists one name or sets the default (`GrayList.Call`), and what it does to the listing
of a name is to write it or to leave it alone. So after a run a name is listed as by the last
call about it, and the default is the one set last (`listing_run`, `strict_run`). Since no name
is entered twice, the names allowed and the names denied are then known as sets, with their
sizes, and calls about different names can change places (`run_eq_last`). -/
namespace ScriptGate.GrayList

/-! ### Calls -/

inductive Call where
  | allow (name : String)
  | deny (name : String)
  | setStrict (strict : Bool)
  deriving DecidableEq, Repr

def call (g : GrayList) : Call → GrayList
  | .allow name => g.allow name
  | .deny name => g.deny name
  | .setStrict strict => g.setStrict strict

def run (g : GrayList) (calls : List Call) : GrayList := calls.foldl call g

namespace Call

/-- The name a call is about. The default is no name. -/
def subject : Call → Option String
  | .allow name => some name
  | .deny name => some name
  | .setStrict _ => none

/-- How the call lists this name, if it does. -/
def lists? (name : String) : Call → Option Listing
  | .allow given => if given = name then some .allowed else none
  | .deny given => if given = name then some .denied else none
  | .setStrict _ => none

/-- What the call sets the default to, if it does. -/
def sets? : Call → Option Bool
  | .setStrict strict => some strict
  | _ => none

theorem lists?_eq_none_iff (c : Call) (name : String) :
    c.lists? name = none ↔ c.subject ≠ some name := by
  cases c <;> simp [lists?, subject]

theorem sets?_eq_none_iff (c : Call) : c.sets? = none ↔ c.subject ≠ none := by
  cases c <;> simp [sets?, subject]

end Call

/-! ### Runs -/

theorem listing_put_or (g : GrayList) (given : String) (as : Listing) (name : String) :
    (g.put given as).listing name = (if given = name then some as else none).or (g.listing name) := by
  rw [listing_put]
  by_cases h : name = given
  · simp [h]
  · simp [h, Ne.symm h]

theorem listing_call (g : GrayList) (c : Call) (name : String) :
    (g.call c).listing name = (c.lists? name).or (g.listing name) := by
  cases c with
  | allow given => exact g.listing_put_or given .allowed name
  | deny given => exact g.listing_put_or given .denied name
  | setStrict strict => rfl

theorem strict_call (g : GrayList) (c : Call) : (g.call c).strict = c.sets?.getD g.strict := by
  cases c <;> rfl

theorem listing_run (g : GrayList) (calls : List Call) (name : String) :
    (g.run calls).listing name = (lastOf (Call.lists? name) calls).or (g.listing name) :=
  foldl_view_or call (·.listing name) (Call.lists? name) (fun g c => listing_call g c name) g calls

theorem strict_run (g : GrayList) (calls : List Call) :
    (g.run calls).strict = (lastOf Call.sets? calls).getD g.strict :=
  foldl_view call strict Call.sets? strict_call g calls

/-! ### The sets of names -/

/-- The names listed in this way: the allow set, or the deny set. -/
def names (g : GrayList) (as : Listing) : Finset String :=
  ((g.listed.entries.filter fun entry => entry.2 == as).map Prod.fst).toFinset

theorem mem_names (g : GrayList) (as : Listing) (name : String) :
    name ∈ g.names as ↔ g.listing name = some as := by
  rw [listing, Table.get?_eq_some_iff]
  simp [names]

theorem card_names (g : GrayList) (as : Listing) :
    (g.names as).card = g.listed.entries.countP fun entry => entry.2 == as := by
  have hnodup : ((g.listed.entries.filter fun entry => entry.2 == as).map Prod.fst).Nodup :=
    g.listed.distinct.sublist (List.filter_sublist.map Prod.fst)
  rw [names, List.toFinset_card_of_nodup hnodup, List.length_map, List.countP_eq_length_filter]

theorem disjoint_names (g : GrayList) : Disjoint (g.names .denied) (g.names .allowed) := by
  rw [Finset.disjoint_left]
  intro name hdenied hallowed
  rw [mem_names] at hdenied hallowed
  rw [hdenied] at hallowed
  cases hallowed

/-- The lists hold the same names on both sides and have the same default. -/
structure SameSets (g k : GrayList) : Prop where
  names : ∀ as, g.names as = k.names as
  strict : g.strict = k.strict

/-- Runs in which every name is listed last in the same way, and the default set last to the
same value, lead from one list to the same sets. -/
theorem sameSets_run (g : GrayList) {calls others : List Call}
    (hlists : ∀ name, lastOf (Call.lists? name) calls = lastOf (Call.lists? name) others)
    (hsets : lastOf Call.sets? calls = lastOf Call.sets? others) :
    (g.run calls).SameSets (g.run others) := by
  refine ⟨fun as => ?_, ?_⟩
  · ext name
    rw [mem_names, mem_names, listing_run, listing_run, hlists]
  · rw [strict_run, strict_run, hsets]

/-! ### Calls that change places -/

section Order
variable {β : Type} (f : Call → Option β) (more : List Call)

theorem lastOf_swap {c d : Call} (h : f c = none ∨ f d = none) :
    lastOf f (c :: d :: more) = lastOf f (d :: c :: more) := by
  simp only [lastOf_cons, Option.or_assoc]
  rcases h with h | h <;> simp [h]

theorem lastOf_repeat (c : Call) : lastOf f (c :: c :: more) = lastOf f (c :: more) := by
  simp only [lastOf_cons, Option.or_assoc, Option.or_self]

end Order

theorem sameSets_swap (g : GrayList) {c d : Call} (hcd : c.subject ≠ d.subject)
    (more : List Call) : (g.run (c :: d :: more)).SameSets (g.run (d :: c :: more)) := by
  refine g.sameSets_run (fun name => lastOf_swap _ more ?_) (lastOf_swap _ more ?_)
  · simp only [Call.lists?_eq_none_iff]
    grind
  · simp only [Call.sets?_eq_none_iff]
    grind

theorem sameSets_repeat (g : GrayList) (c : Call) (more : List Call) :
    (g.run (c :: c :: more)).SameSets (g.run (c :: more)) :=
  g.sameSets_run (fun _ => lastOf_repeat _ more c) (lastOf_repeat _ more c)

/-! ### All together -/

theorem allows_of_listing {g : GrayList} {name : String} {as : Listing}
    (h : g.listing name = some as) : g.allows name = (as == .allowed) := by
  rw [allows, h]
  cases as <;> rfl

theorem exists_mem_names_run {g : GrayList} {name : String} {as : Listing}
    (hname : name ∈ g.names as) (more : List Call) : ∃ as', name ∈ (g.run more).names as' := by
  simp only [mem_names, listing_run] at hname ⊢
  rw [hname]
  cases lastOf (Call.lists? name) more with
  | none => exact ⟨as, rfl⟩
  | some as' => exact ⟨as', rfl⟩

theorem listing_run_empty (strict : Bool) (calls : List Call) (name : String) :
    ((empty strict).run calls).listing name = lastOf (Call.lists? name) calls := by
  rw [listing_run, listing_empty, Option.or_none]

/-- The names on either side are those that calls were about. -/
theorem union_names_run (strict : Bool) (calls : List Call) :
    ((empty strict).run calls).names .denied ∪ ((empty strict).run calls).names .allowed =
      (calls.filterMap Call.subject).toFinset := by
  ext name
  have hnone := lastOf_eq_none_iff (Call.lists? name) calls
  simp only [Call.lists?_eq_none_iff] at hnone
  rw [Finset.mem_union, mem_names, mem_names, listing_run_empty, List.mem_toFinset,
    List.mem_filterMap]
  -- A name is on neither side exactly if no call was about it.
  rw [← not_iff_not]
  push Not
  rw [← hnone]
  rcases lastOf (Call.lists? name) calls with _ | _ | _ <;> simp

/-- **A gray list holds every name it was ever given, on the side where the last call put it.**
The two sides have no name in common, their counts add up to the number of names given, and no
name falls off the list again. A name on the list is allowed or not by its side, whatever the
default, and any other name by the default set last. Calls about different names can change
places, and a call made twice does what it does once. -/
theorem run_eq_last (strict : Bool) (calls : List Call) :
    let g := (empty strict).run calls
    (∀ as name, name ∈ g.names as ↔ lastOf (Call.lists? name) calls = some as) ∧
    (∀ name, (g.isDenied name = true ↔ name ∈ g.names .denied) ∧
      (g.isAllowed name = true ↔ name ∈ g.names .allowed)) ∧
    Disjoint (g.names .denied) (g.names .allowed) ∧
    g.deniedCount = (g.names .denied).card ∧ g.allowedCount = (g.names .allowed).card ∧
    g.deniedCount + g.allowedCount = (calls.filterMap Call.subject).toFinset.card ∧
    (∀ name as more, name ∈ g.names as → ∃ as', name ∈ (g.run more).names as') ∧
    (∀ name as, name ∈ g.names as → g.allows name = (as == .allowed) ∧
      ∀ other, (g.setStrict other).allows name = (as == .allowed)) ∧
    (∀ name, (∀ as, name ∉ g.names as) →
      g.allows name = !(lastOf Call.sets? calls).getD strict) ∧
    (∀ c d more, c.subject ≠ d.subject →
      (g.run (c :: d :: more)).SameSets (g.run (d :: c :: more))) ∧
    ∀ c more, (g.run (c :: c :: more)).SameSets (g.run (c :: more)) := by
  intro g
  have hdenied : g.deniedCount = (g.names .denied).card := (g.card_names .denied).symm
  have hallowed : g.allowedCount = (g.names .allowed).card := (g.card_names .allowed).symm
  refine ⟨fun as name => ?_, fun name => ?_, g.disjoint_names, hdenied, hallowed, ?_,
    fun name as more hname => exists_mem_names_run hname more, fun name as hname => ?_,
    fun name hnone => ?_, fun c d more hcd => g.sameSets_swap hcd more, g.sameSets_repeat⟩
  · rw [mem_names, listing_run_empty]
  · simp only [mem_names, isDenied, isAllowed, beq_iff_eq, and_self]
  · rw [hdenied, hallowed, ← Finset.card_union_of_disjoint g.disjoint_names, union_names_run]
  · rw [mem_names] at hname
    exact ⟨allows_of_listing hname, fun other => allows_of_listing hname⟩
  · have hlisting : g.listing name = none := by
      simpa only [mem_names, ← Option.eq_none_iff_forall_ne_some] using hnone
    rw [allows, hlisting, strict_run]
    rfl

/-- A name that was denied and then allowed, and one that no call was about. -/
theorem run_eq_last_switched :
    let calls : List Call := [.deny "eval", .setStrict true, .deny "puts", .allow "eval"]
    let g := (empty false).run calls
    "eval" ∈ g.names .allowed ∧ "eval" ∉ g.names .denied ∧ g.allows "eval" = true ∧
    g.allows "print" = false ∧ g.deniedCount + g.allowedCount = 2 ∧
    (g.run [.allow "puts", .deny "eval"]).SameSets (g.run [.deny "eval", .allow "puts"]) := by
  intro calls g
  obtain ⟨hnames, -, -, -, -, hcount, -, hlisted, hother, hswap, -⟩ := run_eq_last false calls
  have hallowed : "eval" ∈ g.names .allowed := (hnames .allowed "eval").mpr (by decide)
  refine ⟨hallowed, ?_, (hlisted "eval" .allowed hallowed).1, ?_, hcount.trans (by decide), ?_⟩
  · exact fun h => absurd ((hnames .denied "eval").mp h) (by decide)
  · exact hother "print" fun as h => absurd ((hnames as "print").mp h) (by cases as <;> decide)
  · exact hswap (.allow "puts") (.deny "eval") [] (by decide)

end ScriptGate.GrayList
