import Mathlib.Data.List.Nodup
import ScriptGate.Policy.Basic

/-! How a name is listed after names have been put on a gray list.

The listing is all that is seen of a list apart from its default, so each operation
is described by what it does to the listing of every name: the name put last is
listed as it was put, and no other name notices (`GrayList.listing_put`,
`GrayList.listing_foldl_put`). Two lists with the same listing have the same entries, in
whatever order (`GrayList.perm_of_listing_eq`). -/
namespace ScriptGate.GrayList

theorem listing_put (g : GrayList) (name : String) (as : Listing) (n : String) :
    (g.put name as).listing n = if n = name then some as else g.listing n :=
  g.listed.get?_put name as n

theorem listing_foldl_put (g : GrayList) (names : List String) (as : Listing) (n : String) :
    (names.foldl (fun g name => g.put name as) g).listing n =
      if n ∈ names then some as else g.listing n := by
  induction names generalizing g with
  | nil => rfl
  | cons name names ih =>
    rw [List.foldl_cons, ih, listing_put]
    by_cases hn : n ∈ names
    · simp [hn]
    · simp [hn, List.mem_cons]

theorem strict_foldl_put (g : GrayList) (names : List String) (as : Listing) :
    (names.foldl (fun g name => g.put name as) g).strict = g.strict := by
  induction names generalizing g with
  | nil => rfl
  | cons name names ih => exact ih _

theorem allow_eq_put : allow = fun g name => g.put name .allowed := rfl

theorem deny_eq_put : deny = fun g name => g.put name .denied := rfl

theorem listing_empty (strict : Bool) (name : String) : (empty strict).listing name = none := rfl

theorem strict_empty (strict : Bool) : (empty strict).strict = strict := rfl

theorem allows_iff (g : GrayList) (name : String) :
    g.allows name = true ↔
      g.listing name = some .allowed ∨ g.listing name = none ∧ g.strict = false := by
  rw [allows]
  rcases g.listing name with _ | _ | _ <;> simp

/-- The listing tells what the entries are, though not their order. -/
theorem perm_of_listing_eq {g k : GrayList} (h : ∀ name, g.listing name = k.listing name) :
    g.listed.entries.Perm k.listed.entries := by
  have hg := List.Nodup.of_map _ g.listed.distinct
  have hk := List.Nodup.of_map _ k.listed.distinct
  refine (List.perm_ext_iff_of_nodup hg hk).mpr ?_
  rintro ⟨name, as⟩
  rw [← Table.get?_eq_some_iff, ← Table.get?_eq_some_iff]
  exact Eq.congr_left (h name)

end ScriptGate.GrayList
