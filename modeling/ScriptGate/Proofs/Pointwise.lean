import Mathlib.Data.List.Forall2

/-! Computations that may fail, and lists compared item by item.

A sequence of computations succeeds if each of them does, and one that runs over a list
succeeds with the list of what it makes of the items (`List.mapM_eq_ok_iff`). Lists related
item by item have related items in the same places (`List.Forall₂.getElem?`). A search of
a list that was put together is a search of its parts (`List.findSome?_flatMap`). -/

namespace Except

variable {ε α β : Type} {x : Except ε α}

theorem bind_eq_ok_iff {f : α → Except ε β} {b : β} :
    (x >>= f) = .ok b ↔ ∃ a, x = .ok a ∧ f a = .ok b := by
  cases x <;> simp [bind, Except.bind]

theorem map_eq_ok_iff {f : α → β} {b : β} : f <$> x = .ok b ↔ ∃ a, x = .ok a ∧ f a = b := by
  cases x <;> simp [Functor.map, Except.map]

end Except

namespace List

variable {α β γ : Type}

theorem mapM_eq_ok_iff {ε : Type} (f : α → Except ε β) (as : List α) (bs : List β) :
    as.mapM f = .ok bs ↔ Forall₂ (fun a b => f a = .ok b) as bs := by
  induction as generalizing bs with
  | nil =>
    rw [mapM_nil, forall₂_nil_left_iff]
    exact ⟨fun h => (Except.ok.inj h).symm, fun h => by rw [h]; rfl⟩
  | cons a as ih =>
    rw [mapM_cons, Except.bind_eq_ok_iff, forall₂_cons_left_iff]
    constructor
    · rintro ⟨b, hb, h⟩
      obtain ⟨rest, hr, h⟩ := Except.bind_eq_ok_iff.mp h
      exact ⟨b, rest, hb, (ih rest).mp hr, (Except.ok.inj h).symm⟩
    · rintro ⟨b, rest, hb, hr, rfl⟩
      exact ⟨b, hb, Except.bind_eq_ok_iff.mpr ⟨rest, (ih rest).mpr hr, rfl⟩⟩

/-! ### Lists related item by item -/

section Related
variable {R R' : α → β → Prop} {as : List α} {bs : List β}

theorem exists_forall₂ (h : ∀ a ∈ as, ∃ b, R a b) : ∃ bs, Forall₂ R as bs := by
  induction as with
  | nil => exact ⟨[], .nil⟩
  | cons a as ih =>
    obtain ⟨⟨b, hb⟩, has⟩ := forall_mem_cons.mp h
    obtain ⟨bs, hbs⟩ := ih has
    exact ⟨b :: bs, .cons hb hbs⟩

theorem Forall₂.getElem? (h : Forall₂ R as bs) {i : Nat} {b : β} (hb : bs[i]? = some b) :
    ∃ a, as[i]? = some a ∧ R a b := by
  induction h generalizing i with
  | nil => cases hb
  | @cons a b' as bs hab _ ih =>
    cases i with
    | zero =>
      obtain rfl := Option.some.inj hb
      exact ⟨a, rfl, hab⟩
    | succ i => exact ih hb

theorem Forall₂.imp_of_mem (h : Forall₂ R as bs) (himp : ∀ b ∈ bs, ∀ a, R a b → R' a b) :
    Forall₂ R' as bs := by
  induction h with
  | nil => exact .nil
  | cons hab _ ih =>
    obtain ⟨hb, hbs⟩ := forall_mem_cons.mp himp
    exact .cons (hb _ hab) (ih hbs)

theorem Forall₂.forall_mem_iff {P : α → Prop} {Q : β → Prop} (hab : Forall₂ R as bs)
    (h : ∀ a b, R a b → (P a ↔ Q b)) : (∀ a ∈ as, P a) ↔ ∀ b ∈ bs, Q b := by
  induction hab with
  | nil => exact iff_of_true nofun nofun
  | cons hr _ ih => rw [forall_mem_cons, forall_mem_cons, h _ _ hr, ih]

end Related

/-! ### Searches -/

theorem findSome?_flatMap (f : α → List β) (g : β → Option γ) (as : List α) :
    (as.flatMap f).findSome? g = as.findSome? fun a => (f a).findSome? g := by
  induction as with
  | nil => rfl
  | cons a as ih =>
    rw [flatMap_cons, findSome?_append, ih, findSome?_cons]
    cases (f a).findSome? g <;> rfl

theorem findSome?_filter (p : α → Bool) (g : α → Option β) (as : List α) :
    (as.filter p).findSome? g = as.findSome? fun a => if p a then g a else none := by
  induction as with
  | nil => rfl
  | cons a as ih => cases h : p a <;> simp [h, findSome?_cons, ih]

end List
