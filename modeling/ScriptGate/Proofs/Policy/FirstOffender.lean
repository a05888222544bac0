import ScriptGate.Policy.Evaluation
import ScriptGate.Proofs.Tree.Position

/-! A walk reports the first node of the tree that its policy refuses.

The walk goes down the tree, counts what it enters, and stops early. `scan` does
the same on a plain list of nodes, and `Node.walk_eq` says that walking a tree is
scanning its listing: that the nodes under a refused one are listed too makes no
difference, for a scan has stopped before it comes to them. From there the
verdict is a search through the listing (`Policy.evaluate_eq_search`). -/
namespace ScriptGate

namespace Policy

/-- Look at the nodes of a list in turn, after `visited` others, up to the first that
the policy refuses. -/
def scan (p : Policy) : List Node → (visited : Nat) → Except Halt Nat
  | [], visited => .ok visited
  | n :: ns, visited =>
    match p.refuse n with
    | some rejection => .error ⟨rejection, visited + 1⟩
    | none => p.scan ns (visited + 1)

theorem scan_append (p : Policy) (a b : List Node) (visited : Nat) :
    p.scan (a ++ b) visited =
      match p.scan a visited with
      | .error halt => .error halt
      | .ok visited => p.scan b visited := by
  induction a generalizing visited with
  | nil => rfl
  | cons n ns ih =>
    simp only [List.cons_append, scan]
    cases p.refuse n with
    | some rejection => rfl
    | none => exact ih _

end Policy

/-! ### A walk is a scan of the listing -/

theorem walkNodes_append (p : Policy) (a b : List Node) (visited : Nat) :
    walkNodes p (a ++ b) visited =
      match walkNodes p a visited with
      | .error halt => .error halt
      | .ok visited => walkNodes p b visited := by
  induction a generalizing visited with
  | nil => rfl
  | cons n ns ih =>
    simp only [List.cons_append, walkNodes]
    cases n.walk p visited with
    | error halt => rfl
    | ok visited => exact ih _

theorem walkNodes_singleton (p : Policy) (n : Node) (visited : Nat) :
    walkNodes p [n] visited = n.walk p visited := by
  rw [walkNodes]
  cases n.walk p visited <;> rfl

theorem walkParts_eq (p : Policy) (ps : List Part) (visited : Nat) :
    walkParts p ps visited = walkNodes p (ps.filterMap Part.node?) visited := by
  induction ps generalizing visited with
  | nil => rfl
  | cons part ps ih =>
    cases part with
    | fragment text => exact ih visited
    | embedded n =>
      simp only [walkParts, Part.walk, Part.node?, List.filterMap_cons, walkNodes, ih]

/-- The fields of a node are walked by walking the nodes directly under them. -/
theorem Fields.walk_eq (p : Policy) {layout : Layout} (fs : Fields layout) (visited : Nat) :
    fs.walk p visited = walkNodes p fs.children visited := by
  induction fs using Fields.induction generalizing visited with
  | nil => rfl
  | cons c tail ih =>
    have hc : c.walk p visited = walkNodes p c.children visited := by
      cases c with
      | token text => rfl
      | child n => exact (walkNodes_singleton p n visited).symm
      | optional o =>
        cases o with
        | none => rfl
        | some n => exact (walkNodes_singleton p n visited).symm
      | list ns => rfl
      | parts ps => exact walkParts_eq p ps visited
    rw [Fields.walk, Fields.children, walkNodes_append, hc]
    cases walkNodes p c.children visited with
    | error halt => rfl
    | ok visited => exact ih visited

theorem walkNodes_eq (p : Policy) (ns : List Node)
    (h : ∀ m ∈ ns, ∀ visited, m.walk p visited = p.scan m.preorder visited) (visited : Nat) :
    walkNodes p ns visited = p.scan (ns.flatMap Node.preorder) visited := by
  induction ns generalizing visited with
  | nil => rfl
  | cons n ns ih =>
    obtain ⟨hn, hns⟩ := List.forall_mem_cons.mp h
    rw [walkNodes, List.flatMap_cons, Policy.scan_append, hn]
    cases p.scan n.preorder visited with
    | error halt => rfl
    | ok visited => exact ih hns visited

/-- Walking a tree is scanning its listing. -/
theorem Node.walk_eq (p : Policy) (n : Node) (visited : Nat) :
    n.walk p visited = p.scan n.preorder visited := by
  induction n using Node.induction generalizing visited with
  | unrecognized tag => rfl
  | known kind fs ih =>
    rw [Node.walk, Node.preorder_known, Policy.scan]
    cases p.refuse (.known kind fs) with
    | some rejection => rfl
    | none => exact (fs.walk_eq p _).trans (walkNodes_eq p fs.children ih _)

/-! ### The first offender -/

namespace Policy

/-- A list ends a scan nowhere, or at its first refused node. -/
theorem scan_cases (p : Policy) (ns : List Node) (visited : Nat) :
    (∀ n ∈ ns, p.refuse n = none) ∧ p.scan ns visited = .ok (visited + ns.length) ∨
    ∃ before n after rejection, ns = before ++ n :: after ∧ (∀ m ∈ before, p.refuse m = none) ∧
      p.refuse n = some rejection ∧
      p.scan ns visited = .error ⟨rejection, visited + (before.length + 1)⟩ := by
  induction ns generalizing visited with
  | nil => exact .inl ⟨nofun, rfl⟩
  | cons n ns ih =>
    cases hn : p.refuse n with
    | some rejection =>
      exact .inr ⟨[], n, ns, rejection, rfl, nofun, hn, by rw [scan, hn]; rfl⟩
    | none =>
      have hscan : p.scan (n :: ns) visited = p.scan ns (visited + 1) := by rw [scan, hn]
      rcases ih (visited + 1) with ⟨hall, hok⟩ | ⟨before, m, after, rejection, rfl, hb, hm, herr⟩
      · refine .inl ⟨List.forall_mem_cons.mpr ⟨hn, hall⟩, ?_⟩
        rw [hscan, hok, List.length_cons, Nat.add_assoc, Nat.add_comm 1]
      · refine .inr ⟨n :: before, m, after, rejection, rfl, List.forall_mem_cons.mpr ⟨hn, hb⟩, hm, ?_⟩
        rw [hscan, herr, List.length_cons, Nat.add_assoc, Nat.add_comm 1]

/-- Either nothing in a tree is refused and all of it is visited, or the verdict is about
a refused node before which nothing is. -/
theorem evaluate_cases (p : Policy) (t : Node) :
    (∀ n ∈ t.preorder, p.refuse n = none) ∧ p.evaluate t = ⟨none, t.preorder.length⟩ ∨
    ∃ before n after rejection, t.preorder = before ++ n :: after ∧
      (∀ m ∈ before, p.refuse m = none) ∧ p.refuse n = some rejection ∧
      p.evaluate t = ⟨some rejection, before.length + 1⟩ := by
  rw [evaluate, t.walk_eq]
  rcases p.scan_cases t.preorder 0 with ⟨hall, hok⟩ | ⟨before, n, after, r, ht, hb, hn, herr⟩
  · exact .inl ⟨hall, by rw [hok, Nat.zero_add]⟩
  · exact .inr ⟨before, n, after, r, ht, hb, hn, by rw [herr, Nat.zero_add]⟩

theorem exists_refuse_of_evaluate {p : Policy} {t : Node} {r : Rejection}
    (h : (p.evaluate t).rejection = some r) :
    ∃ before n after, t.preorder = before ++ n :: after ∧ (∀ m ∈ before, p.refuse m = none) ∧
      p.refuse n = some r := by
  rcases p.evaluate_cases t with ⟨-, he⟩ | ⟨before, n, after, first, ht, hbefore, hn, he⟩
  · rw [he] at h
    cases h
  · rw [he] at h
    obtain rfl := Option.some.inj h
    exact ⟨before, n, after, ht, hbefore, hn⟩

/-- **The verdict on a tree is the first refusal in its listing**, with the place of the
refused node as the count, or with the length of the whole listing if nothing is
refused. The listing leaves out no node of the tree. -/
theorem evaluate_eq_search (p : Policy) (t : Node) :
    (∀ n, n ∈ t.preorder ↔ ∃ position, t.at? position = some n) ∧
    (p.evaluate t).rejection = t.preorder.findSome? p.refuse ∧
    (p.evaluate t).nodesVisited =
      match t.preorder.findIdx? fun n => (p.refuse n).isSome with
      | some i => i + 1
      | none => t.preorder.length := by
  refine ⟨t.mem_preorder_iff, ?_⟩
  rcases p.evaluate_cases t with ⟨hall, he⟩ | ⟨before, n, after, r, ht, hb, hn, he⟩
  · have hsome : t.preorder.findSome? p.refuse = none := List.findSome?_eq_none_iff.mpr hall
    have hidx : (t.preorder.findIdx? fun n => (p.refuse n).isSome) = none :=
      List.findIdx?_eq_none_iff.mpr fun n hn => by rw [hall n hn]; rfl
    rw [he, hsome, hidx]
    exact ⟨rfl, rfl⟩
  · have hsome : before.findSome? p.refuse = none := List.findSome?_eq_none_iff.mpr hb
    have hidx : (before.findIdx? fun n => (p.refuse n).isSome) = none :=
      List.findIdx?_eq_none_iff.mpr fun n hn => by rw [hb n hn]; rfl
    rw [he, ht, List.findSome?_append, List.findIdx?_append, hsome, hidx, List.findSome?_cons,
      List.findIdx?_cons, hn]
    simp

end Policy

end ScriptGate
