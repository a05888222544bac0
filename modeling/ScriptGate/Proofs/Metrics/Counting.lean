import Mathlib.Algebra.GroupWithZero.Nat
import ScriptGate.Proofs.Metrics.Series

/-! What a counter holds after any calls.

Which series a call belongs to is decided by its labels as a collection: their order
makes no difference, how often one is repeated does. So the value of a series is the sum
of what was added under permutations of its labels, modulo the size of a machine word, and
the series there are, and the lines written for them, are the collections that some call
named (`Counter.counted_eq_sums`). -/
namespace ScriptGate.Metrics

/-- Words added up wrap around at the end only. -/
theorem toNat_foldl_add {ι : Type} (amount : ι → UInt64) (us : List ι) (n : UInt64) :
    (us.foldl (fun n u => n + amount u) n).toNat =
      (n.toNat + (us.map fun u => (amount u).toNat).sum) % UInt64.size := by
  induction us generalizing n with
  | nil => simp [Nat.mod_eq_of_lt n.toNat_lt]
  | cons u us ih =>
    rw [List.foldl_cons, ih, UInt64.toNat_add, List.map_cons, List.sum_cons, ← Nat.add_assoc]
    exact Nat.mod_add_mod _ _ _

namespace Counter

inductive Call where
  | increment (labels : List Label)
  | add (labels : List Label) (n : UInt64)
  deriving DecidableEq, Repr

namespace Call

def labels : Call → List Label
  | .increment labels => labels
  | .add labels _ => labels

/-- What a call adds to its series. -/
def amount : Call → UInt64
  | .increment _ => 1
  | .add _ n => n

end Call

def apply (c : Counter) : Call → Counter
  | .increment labels => c.increment labels
  | .add labels n => c.add labels n

/-- The counter after some calls on a fresh one. -/
def counted (calls : List Call) : Counter := calls.foldl apply {}

/-! ### Calls as updates -/

theorem family_apply (c : Counter) (call : Call) :
    (c.apply call).family = c.family.update (.ofList call.labels) 0 (· + call.amount) := by
  cases call <;> rfl

theorem family_foldl_apply (c : Counter) (calls : List Call) :
    (calls.foldl apply c).family =
      c.family.updates (fun call => .ofList call.labels) 0 (fun call n => n + call.amount) calls := by
  induction calls generalizing c with
  | nil => rfl
  | cons call calls ih =>
    rw [List.foldl_cons, ih, family_apply]
    rfl

/-! ### Values and series -/

theorem toNat_get_counted (calls : List Call) (labels : List Label) :
    ((counted calls).get labels).toNat =
      ((calls.filter fun call => call.labels.isPerm labels).map fun call =>
        call.amount.toNat).sum % UInt64.size := by
  have hget : (counted calls).get labels =
      (calls.filter fun call => call.labels.isPerm labels).foldl
        (fun n call => n + call.amount) 0 := by
    rw [get, counted, family_foldl_apply, Family.getD_updates, LabelSet.filter_ofList_eq]
    rfl
  rw [hget, toNat_foldl_add, UInt64.toNat_zero, Nat.zero_add]

theorem mem_series_counted (calls : List Call) (key : LabelSet) :
    key ∈ Family.series (counted calls).family ↔
      ∃ call ∈ calls, LabelSet.ofList call.labels = key := by
  rw [counted, family_foldl_apply, Family.mem_series_updates]
  exact or_iff_left (List.not_mem_nil)

theorem nodup_series_counted (calls : List Call) :
    (Family.series (counted calls).family).Nodup := by
  rw [counted, family_foldl_apply]
  exact Family.nodup_series_updates _ _ _ _ .nil

/-- The series of a counter are label sets in order, so equal if they are permutations. -/
theorem ofList_of_mem_series {calls : List Call} {key : LabelSet}
    (h : key ∈ Family.series (counted calls).family) : LabelSet.ofList key = key := by
  obtain ⟨call, _, rfl⟩ := (mem_series_counted calls key).mp h
  exact LabelSet.ofList_ofList call.labels

/-- A line is written for each series, with the value that the counter has for its labels. -/
theorem lines_counted (calls : List Call) (name : String) :
    (counted calls).lines name = ("# TYPE " ++ name ++ " counter") ::
      (Family.series (counted calls).family).map fun key =>
        line name (key, (counted calls).get key) := by
  rw [lines, Family.series, List.map_map]
  congr 1
  refine List.map_congr_left fun s hs => ?_
  have hkey : LabelSet.ofList s.1 = s.1 := ofList_of_mem_series (List.mem_map_of_mem hs)
  have hget : (counted calls).family.get? s.1 = some s.2 :=
    (Family.mem_iff_get? (nodup_series_counted calls) s.1 s.2).mp hs
  simp [get, hkey, hget]

/-- **A counter is a sum for each collection of labels.** After any calls, the value under
any labels is the sum of what was added under permutations of them, modulo the size of a
word, and zero without such a call; a line is written for each collection of labels that
some call named, once and with that value; and the order of the calls makes no difference. -/
theorem counted_eq_sums (calls : List Call) :
    (∀ labels, ((counted calls).get labels).toNat =
      ((calls.filter fun call => call.labels.isPerm labels).map fun call =>
        call.amount.toNat).sum % UInt64.size) ∧
    (∀ labels, (∀ call ∈ calls, ¬ call.labels.Perm labels) → (counted calls).get labels = 0) ∧
    (∀ name, ∃ named : List LabelSet,
      (counted calls).lines name = ("# TYPE " ++ name ++ " counter") ::
        named.map (fun key => line name (key, (counted calls).get key)) ∧
      named.Pairwise (fun a b => ¬ a.Perm b) ∧
      ∀ labels, (∃ key ∈ named, key.Perm labels) ↔ ∃ call ∈ calls, call.labels.Perm labels) ∧
    ∀ others, calls.Perm others → (counted calls).family.Perm (counted others).family ∧
      ∀ labels, (counted calls).get labels = (counted others).get labels := by
  refine ⟨toNat_get_counted calls, fun labels hnone => ?_, fun name => ?_, fun others hperm => ?_⟩
  · have hfilter : (calls.filter fun call => call.labels.isPerm labels) = [] := by
      simpa [List.isPerm_iff] using hnone
    refine UInt64.toNat.inj ?_
    rw [toNat_get_counted, hfilter]
    rfl
  · refine ⟨Family.series (counted calls).family, lines_counted calls name, ?_, fun labels => ?_⟩
    · refine (nodup_series_counted calls).imp_of_mem fun {a b} ha hb hne hab => hne ?_
      rw [← ofList_of_mem_series ha, ← ofList_of_mem_series hb, LabelSet.ofList_eq_iff.mpr hab]
    · constructor
      · rintro ⟨key, hkey, hperm⟩
        obtain ⟨call, hcall, rfl⟩ := (mem_series_counted calls key).mp hkey
        exact ⟨call, hcall, (LabelSet.ofList_perm _).symm.trans hperm⟩
      · rintro ⟨call, hcall, hperm⟩
        exact ⟨.ofList call.labels, (mem_series_counted calls _).mpr ⟨call, hcall, rfl⟩,
          (LabelSet.ofList_perm _).trans hperm⟩
  · constructor
    · rw [counted, counted, family_foldl_apply, family_foldl_apply]
      refine Family.updates_perm _ _ _ (fun u v n => ?_) hperm
      rw [UInt64.add_assoc, UInt64.add_comm v.amount, ← UInt64.add_assoc]
    · intro labels
      refine UInt64.toNat.inj ?_
      rw [toNat_get_counted, toNat_get_counted]
      exact congrArg (· % _) ((hperm.filter _).map _).sum_nat

/-- A full word and one more under the same labels in another order come to zero; a series
that was only named, with a label twice, is another one. -/
theorem counted_eq_sums_wrap :
    let calls : List Call := [.add [("verdict", "allowed"), ("profile", "a")] 18446744073709551615,
      .increment [("profile", "a"), ("verdict", "allowed")],
      .add [("profile", "a"), ("profile", "a")] 0]
    ((counted calls).get [("profile", "a"), ("verdict", "allowed")]).toNat = 0 ∧
      (counted calls).get [("profile", "a")] = 0 ∧
      (counted calls).family.Perm (counted calls.reverse).family := by
  intro calls
  obtain ⟨hsum, hnone, _, hperm⟩ := counted_eq_sums calls
  refine ⟨(hsum _).trans (by decide), hnone _ (by decide), ?_⟩
  exact (hperm calls.reverse (List.reverse_perm calls).symm).1

end Counter

end ScriptGate.Metrics
