/-! Tables: values under names, no name twice.

A value is put in place of the one that stood under its name (`Table.get?_put`), so what
is found under a name is the one entry that it has (`Table.get?_eq_some_iff`). -/
namespace ScriptGate

structure Table (α : Type) where
  entries : List (String × α) := []
  /-- No name stands twice. -/
  distinct : (entries.map Prod.fst).Nodup := by simp
  deriving DecidableEq, Repr

namespace Table

variable {α : Type}

def size (t : Table α) : Nat := t.entries.length

/-- What stands under a name. -/
def get? (t : Table α) (name : String) : Option α :=
  (t.entries.find? fun entry => entry.1 == name).map Prod.snd

/-- Put a value under a name, in place of the one that stood there. -/
def put (t : Table α) (name : String) (a : α) : Table α where
  entries := (name, a) :: t.entries.filter fun entry => entry.1 != name
  distinct := by
    refine List.nodup_cons.mpr ⟨?_, t.distinct.sublist (List.filter_sublist.map Prod.fst)⟩
    simp

@[simp]
theorem get?_empty (name : String) : ({} : Table α).get? name = none := rfl

theorem get?_put (t : Table α) (name : String) (a : α) (n : String) :
    (t.put name a).get? n = if n = name then some a else t.get? n := by
  by_cases h : n = name
  · simp [get?, put, h]
  · -- Dropping the entries of one name leaves those of another.
    have hothers : (t.entries.filter fun entry => entry.1 != name).find?
        (fun entry => entry.1 == n) = t.entries.find? fun entry => entry.1 == n := by
      rw [List.find?_filter]
      congr 1
      funext entry
      by_cases he : entry.1 = n
      · simp [he, h]
      · simp [he]
    simp only [get?, put, List.find?_cons, beq_eq_false_iff_ne.mpr (Ne.symm h), hothers, if_neg h]

theorem get?_eq_none_iff (t : Table α) (name : String) :
    t.get? name = none ↔ ∀ entry ∈ t.entries, entry.1 ≠ name := by
  simp [get?]

theorem get?_eq_some_iff (t : Table α) (name : String) (a : α) :
    t.get? name = some a ↔ (name, a) ∈ t.entries := by
  obtain ⟨entries, distinct⟩ := t
  induction entries with
  | nil => simp [get?]
  | cons entry entries ih =>
    obtain ⟨hnew, hrest⟩ := List.nodup_cons.mp distinct
    have ih := ih hrest
    simp only [get?, List.mem_cons] at ih ⊢
    by_cases h : entry.1 = name
    · -- The name stands nowhere behind its entry.
      have hnot : (name, a) ∉ entries := fun hmem => hnew (h ▸ List.mem_map_of_mem hmem)
      simp [h, hnot, Prod.ext_iff, eq_comm]
    · have hne : (name, a) ≠ entry := fun he => h (he ▸ rfl)
      rw [List.find?_cons_of_neg (by simpa using h), ih, or_iff_right hne]

theorem size_put_of_get?_eq_none {t : Table α} {name : String} (h : t.get? name = none) (a : α) :
    (t.put name a).size = t.size + 1 := by
  have hall : ∀ entry ∈ t.entries, (entry.1 != name) = true := fun entry hentry =>
    bne_iff_ne.mpr ((t.get?_eq_none_iff name).mp h entry hentry)
  rw [size, put, List.length_cons, List.filter_eq_self.mpr hall, size]

end Table

end ScriptGate
