import ScriptGate.Tree.Node

/-! Equality of syntax trees, decided by going through both at once
(`Node.same_eq`). -/
namespace ScriptGate

mutual

/-- Two nodes are the same tree. -/
def Node.same : Node → Node → Bool
  | .known k fs, .known k' fs' => k == k' && fs.same fs'
  | .unrecognized t, .unrecognized t' => t == t'
  | _, _ => false
termination_by structural n => n

def Fields.same : {l l' : Layout} → Fields l → Fields l' → Bool
  | _, _, .nil, .nil => true
  | _, _, .cons c t, .cons c' t' => c.same c' && t.same t'
  | _, _, _, _ => false
termination_by structural _ _ n => n

def Content.same : {s s' : Slot} → Content s → Content s' → Bool
  | _, _, .token t, .token t' => t == t'
  | _, _, .child n, .child n' => n.same n'
  | _, _, .optional none, .optional none => true
  | _, _, .optional (some n), .optional (some n') => n.same n'
  | _, _, .list ns, .list ns' => sameNodes ns ns'
  | _, _, .parts ps, .parts ps' => sameParts ps ps'
  | _, _, _, _ => false
termination_by structural _ _ n => n

def sameNodes : List Node → List Node → Bool
  | [], [] => true
  | n :: ns, n' :: ns' => n.same n' && sameNodes ns ns'
  | _, _ => false
termination_by structural n => n

def sameParts : List Part → List Part → Bool
  | [], [] => true
  | p :: ps, p' :: ps' => p.same p' && sameParts ps ps'
  | _, _ => false
termination_by structural n => n

def Part.same : Part → Part → Bool
  | .fragment t, .fragment t' => t == t'
  | .embedded n, .embedded n' => n.same n'
  | _, _ => false
termination_by structural n => n

end

mutual

theorem Node.same_eq : ∀ n m : Node, n.same m = true ↔ n = m
  | .known k fs, .known k' fs' => by
    rw [Node.same]
    by_cases h : k = k'
    · subst h; simp [Fields.same_eq fs fs']
    · simp [h]
  | .unrecognized t, .unrecognized t' => by simp [Node.same]
  | .known .., .unrecognized _ => by simp [Node.same]
  | .unrecognized _, .known .. => by simp [Node.same]
termination_by structural n => n

theorem Fields.same_eq : ∀ {l : Layout} (fs fs' : Fields l), fs.same fs' = true ↔ fs = fs'
  | _, .nil, .nil => by simp [Fields.same]
  | _, .cons c t, .cons c' t' => by simp [Fields.same, Content.same_eq c c', Fields.same_eq t t']
termination_by structural _ n => n

theorem Content.same_eq : ∀ {s : Slot} (c c' : Content s), c.same c' = true ↔ c = c'
  | _, .token t, .token t' => by simp [Content.same]
  | _, .child n, .child n' => by simp [Content.same, Node.same_eq n n']
  | _, .optional none, .optional none => by simp [Content.same]
  | _, .optional (some n), .optional (some n') => by simp [Content.same, Node.same_eq n n']
  | _, .optional none, .optional (some _) => by simp [Content.same]
  | _, .optional (some _), .optional none => by simp [Content.same]
  | _, .list ns, .list ns' => by simp [Content.same, sameNodes_eq ns ns']
  | _, .parts ps, .parts ps' => by simp [Content.same, sameParts_eq ps ps']
termination_by structural _ n => n

theorem sameNodes_eq : ∀ ns ns' : List Node, sameNodes ns ns' = true ↔ ns = ns'
  | [], [] => by simp [sameNodes]
  | [], _ :: _ => by simp [sameNodes]
  | _ :: _, [] => by simp [sameNodes]
  | n :: ns, n' :: ns' => by simp [sameNodes, Node.same_eq n n', sameNodes_eq ns ns']
termination_by structural n => n

theorem sameParts_eq : ∀ ps ps' : List Part, sameParts ps ps' = true ↔ ps = ps'
  | [], [] => by simp [sameParts]
  | [], _ :: _ => by simp [sameParts]
  | _ :: _, [] => by simp [sameParts]
  | p :: ps, p' :: ps' => by simp [sameParts, Part.same_eq p p', sameParts_eq ps ps']
termination_by structural n => n

theorem Part.same_eq : ∀ p p' : Part, p.same p' = true ↔ p = p'
  | .fragment t, .fragment t' => by simp [Part.same]
  | .embedded n, .embedded n' => by simp [Part.same, Node.same_eq n n']
  | .fragment _, .embedded _ => by simp [Part.same]
  | .embedded _, .fragment _ => by simp [Part.same]
termination_by structural n => n

end

instance : DecidableEq Node := fun n m => decidable_of_iff _ (Node.same_eq n m)

end ScriptGate
