import ScriptGate.Proofs.Policy.Relevance
import ScriptGate.Proofs.Profile.Names
import ScriptGate.Proofs.Profile.Policy

/-! A profile is compiled to exactly the policy it describes.

The lists of a profile are read in a fixed order, and the first entry that is no name is
what a host is told about (`Gate.policyOf_eq_error_iff`). If all entries are names, how a
name is listed in the policy can be read off the profile (`Gate.listing_policyOf`), and
since a list has no name twice, the listing is all there is to know of it
(`Policy.same_of_listing`). So the order of the entries and their repetitions do not
matter, and in a valid profile neither does the order of the lists. -/
namespace ScriptGate

/-! ### Policies that nothing tells apart -/

namespace Policy

variable {p q : Policy}

/-- Whatever is asked of the two policies, they give the same answer. -/
structure Same (p q : Policy) : Prop where
  options : p.options = q.options
  listing : ∀ sort name, (p.names sort).listing name = (q.names sort).listing name
  deniedCount : ∀ sort, (p.names sort).deniedCount = (q.names sort).deniedCount
  allowedCount : ∀ sort, (p.names sort).allowedCount = (q.names sort).allowedCount
  lastRefusal : p.lastRefusal = q.lastRefusal

theorem same_of_listing (hoptions : p.options = q.options) (hlast : p.lastRefusal = q.lastRefusal)
    (h : ∀ sort name, (p.names sort).listing name = (q.names sort).listing name) : p.Same q := by
  have hperm (sort : NameSort) : (p.names sort).listed.entries.Perm (q.names sort).listed.entries :=
    GrayList.perm_of_listing_eq (h sort)
  exact ⟨hoptions, h, fun sort => (hperm sort).countP_eq _, fun sort => (hperm sort).countP_eq _, hlast⟩

theorem Same.evaluate_eq (h : p.Same q) (t : Node) : p.evaluate t = q.evaluate t := by
  have hvalue (switch : Switch) : p.options.value switch = q.options.value switch := by
    rw [h.options]
  refine evaluate_of_agreeOn ⟨hvalue .whileLoops, hvalue .untilLoops, hvalue .definedTest, ?_⟩
  intro sort name _
  rw [nameAllowed_eq, nameAllowed_eq, h.listing, h.options]

end Policy

/-! ### The lists of a profile -/

namespace Profile

/-- The entries of all lists in the order in which they are checked, each with the field that
it stands in. -/
def entries (p : Profile) : List NameFault :=
  p.denyCalls.map (NameFault.mk .call "deny_calls") ++
    (p.allowCalls.map (NameFault.mk .call "allow_calls") ++
      (p.denyConstants.map (NameFault.mk .constant "deny_constants") ++
        p.allowConstants.map (NameFault.mk .constant "allow_constants")))

theorem forall_mem_entries_iff (p : Profile) (P : NameSort → String → Prop) :
    (∀ e ∈ p.entries, P e.sort e.entry) ↔ ∀ sort as, ∀ name ∈ p.names sort as, P sort name := by
  simp only [entries, List.forall_mem_append, List.forall_mem_map]
  constructor
  · rintro ⟨hdc, hac, hdk, hak⟩ (_ | _) (_ | _)
    · exact hac
    · exact hdc
    · exact hak
    · exact hdk
  · intro h
    exact ⟨h .call .denied, h .call .allowed, h .constant .denied, h .constant .allowed⟩

/-- The profiles have the same switches, and on each list the same names, however ordered and
however often. -/
structure SameNames (p q : Profile) : Prop where
  policy : p.policy = q.policy
  names : ∀ sort as name, name ∈ p.names sort as ↔ name ∈ q.names sort as

/-- The policy of a profile with its names put the other way around: those it allows first. -/
def allowFirst (p : Profile) : Policy :=
  let policy := Policy.ofOptions p.policy
  let policy := p.allowCalls.foldl Policy.allowIdentifier policy
  let policy := p.allowConstants.foldl Policy.allowConstant policy
  let policy := p.denyCalls.foldl Policy.denyIdentifier policy
  p.denyConstants.foldl Policy.denyConstant policy

end Profile

namespace Gate

/-! ### Which profiles are compiled -/

/-- Checking a list and going on fails for the first bad entry of the list, or else as what
comes after it does. -/
theorem bind_compile_eq_error_iff {α : Type} {sort : NameSort} {field : String}
    {names : List String} {next : List String → Except NameFault α} {later : List NameFault}
    {fault : NameFault}
    (h : next names = .error fault ↔ later.find? NameFault.occurs = some fault) :
    (sort.compile field names >>= next) = .error fault ↔
      (names.map (NameFault.mk sort field) ++ later).find? NameFault.occurs = some fault := by
  rw [sort.compile_eq, List.find?_append]
  cases (names.map (NameFault.mk sort field)).find? NameFault.occurs with
  | some first =>
    show Except.error first = .error fault ↔ some first = some fault
    rw [Except.error.injEq, Option.some.injEq]
  | none => exact h

theorem policyOf_eq_error_iff (p : Profile) (fault : NameFault) :
    policyOf p = .error fault ↔ p.entries.find? NameFault.occurs = some fault := by
  unfold policyOf Profile.entries
  refine bind_compile_eq_error_iff (bind_compile_eq_error_iff (bind_compile_eq_error_iff ?_))
  rw [← List.append_nil (p.allowConstants.map _)]
  exact bind_compile_eq_error_iff (iff_of_false nofun nofun)

section OfProfile
variable (maxBodyBytes maxTreeDepth : Nat) (p : Profile)

theorem ofProfile_eq_error_iff (fault : NameFault) :
    ofProfile maxBodyBytes maxTreeDepth p = .error fault ↔
      p.entries.find? NameFault.occurs = some fault := by
  rw [← policyOf_eq_error_iff, ofProfile]
  cases policyOf p with
  | error first =>
    show (Except.error first : Except NameFault Gate) = .error fault ↔ _
    rw [Except.error.injEq, Except.error.injEq]
  | ok policy => exact iff_of_false nofun nofun

/-- The host is told about the first entry that is no name. -/
theorem ofProfile_eq_error_iff_first (fault : NameFault) :
    ofProfile maxBodyBytes maxTreeDepth p = .error fault ↔
      ∃ before after, p.entries = before ++ fault :: after ∧
        (∀ e ∈ before, e.sort.IsName e.entry) ∧ ¬ fault.sort.IsName fault.entry := by
  rw [ofProfile_eq_error_iff, List.find?_eq_some_iff_append, and_comm]
  simp only [← NameFault.occurs_eq_false_iff, Bool.not_eq_false, Bool.not_eq_true',
    ← exists_and_right, and_assoc]

theorem exists_ofProfile_iff :
    (∃ g, ofProfile maxBodyBytes maxTreeDepth p = .ok g) ↔
      ∀ sort as, ∀ name ∈ p.names sort as, sort.IsName name := by
  have hnames : p.entries.find? NameFault.occurs = none ↔
      ∀ sort as, ∀ name ∈ p.names sort as, sort.IsName name := by
    rw [List.find?_eq_none, ← p.forall_mem_entries_iff]
    simp only [Bool.not_eq_true, NameFault.occurs_eq_false_iff]
  rw [← hnames]
  cases hof : ofProfile maxBodyBytes maxTreeDepth p with
  | error fault =>
    rw [(ofProfile_eq_error_iff maxBodyBytes maxTreeDepth p fault).mp hof]
    exact iff_of_false (fun ⟨_, hg⟩ => nomatch hg) nofun
  | ok g =>
    refine iff_of_true ⟨g, rfl⟩ (Option.eq_none_iff_forall_ne_some.mpr fun fault hfault => ?_)
    rw [(ofProfile_eq_error_iff maxBodyBytes maxTreeDepth p fault).mpr hfault] at hof
    cases hof

end OfProfile

/-! ### What they are compiled to -/

section Compiled
variable {p : Profile} {policy : Policy} (h : policyOf p = .ok policy)
include h

theorem names_policyOf (sort : NameSort) :
    policy.names sort = GrayList.layered (p.policy.value sort.strictness) sort.seeds
      (p.names sort .denied) (p.names sort .allowed) := by
  rw [policyOf_eq_ok h]
  cases sort <;> rfl

theorem listing_policyOf (sort : NameSort) (name : String) :
    (policy.names sort).listing name =
      if name ∈ p.names sort .allowed then some .allowed
      else if name ∈ p.names sort .denied then some .denied
      else if name ∈ sort.seeds then some .denied
      else none := by
  rw [names_policyOf h, GrayList.listing_layered]

theorem lastRefusal_policyOf : policy.lastRefusal = none := by
  rw [policyOf_eq_ok h]
  rfl

theorem nameAllowed_policyOf_iff (sort : NameSort) (name : String) :
    policy.nameAllowed sort name = true ↔ name ∈ p.names sort .allowed ∨
      name ∉ p.names sort .denied ∧ name ∉ sort.seeds ∧
        p.policy.value sort.strictness = false := by
  cases sort with
  | call => exact identifierAllowed_iff h name
  | constant => exact constantAllowed_iff h name

theorem same_of_sameNames {p' : Profile} {policy' : Policy} (h' : policyOf p' = .ok policy')
    (hnames : p'.SameNames p) : policy'.Same policy := by
  refine Policy.same_of_listing ?_ ?_ fun sort name => ?_
  · rw [options_policyOf h', options_policyOf h, hnames.policy]
  · rw [lastRefusal_policyOf h', lastRefusal_policyOf h]
  · simp only [listing_policyOf h', listing_policyOf h, hnames.names]

end Compiled

/-! ### The other order -/

theorem allowFirst_eq (p : Profile) :
    p.allowFirst =
      { Policy.ofOptions p.policy with
        identifiers := p.denyCalls.foldl GrayList.deny (p.allowCalls.foldl GrayList.allow
          (Policy.ofOptions p.policy).identifiers)
        constants := p.denyConstants.foldl GrayList.deny (p.allowConstants.foldl GrayList.allow
          (Policy.ofOptions p.policy).constants) } := by
  rw [Profile.allowFirst, Policy.foldl_denyConstant, Policy.foldl_denyIdentifier,
    Policy.foldl_allowConstant, Policy.foldl_allowIdentifier]

theorem options_allowFirst (p : Profile) : p.allowFirst.options = p.policy := by
  rw [allowFirst_eq]
  simp only [Policy.options, Policy.ofOptions, GrayList.denyAll, GrayList.allow_eq_put,
    GrayList.deny_eq_put, GrayList.strict_foldl_put, GrayList.strict_empty]

theorem names_allowFirst (p : Profile) (sort : NameSort) :
    p.allowFirst.names sort =
      (p.names sort .denied).foldl GrayList.deny ((p.names sort .allowed).foldl GrayList.allow
        ((GrayList.empty (p.policy.value sort.strictness)).denyAll sort.seeds)) := by
  rw [allowFirst_eq]
  cases sort <;> rfl

theorem listing_allowFirst (p : Profile) (sort : NameSort) (name : String) :
    (p.allowFirst.names sort).listing name =
      if name ∈ p.names sort .denied then some .denied
      else if name ∈ p.names sort .allowed then some .allowed
      else if name ∈ sort.seeds then some .denied
      else none := by
  simp only [names_allowFirst, GrayList.denyAll, GrayList.allow_eq_put, GrayList.deny_eq_put,
    GrayList.listing_foldl_put, GrayList.listing_empty]

/-- In a valid profile it makes no difference which names are put first. -/
theorem same_allowFirst {p : Profile} (hv : p.validate = .ok ()) {policy : Policy}
    (h : policyOf p = .ok policy) : p.allowFirst.Same policy := by
  refine Policy.same_of_listing ?_ ?_ fun sort name => ?_
  · rw [options_allowFirst, options_policyOf h]
  · rw [allowFirst_eq, lastRefusal_policyOf h]
    rfl
  · rw [listing_allowFirst, listing_policyOf h]
    by_cases hallowed : name ∈ p.names sort .allowed
    · rw [if_neg (Profile.not_mem_denied hv sort name hallowed)]
      simp only [if_pos hallowed]
    · simp only [if_neg hallowed]

/-! ### All together -/

theorem check_congr {g g' : Gate} (hbytes : g'.maxBodyBytes = g.maxBodyBytes)
    (hdepth : g'.maxTreeDepth = g.maxTreeDepth)
    (hpolicy : ∀ t, g'.policy.evaluate t = g.policy.evaluate t) (body : ByteArray) :
    g'.check body = g.check body := by
  simp only [check, checkLength, hbytes, hdepth, hpolicy]

/-- **A profile is compiled exactly if all its entries are names, and then to the policy it
describes.** The first entry that is no name is reported otherwise. The policy has the
profile's switches; it allows a name that the profile allows, and one that neither the
profile nor the seed names deny unless the list is strict. Other orders and repetitions of
the entries lead to a policy that nothing tells apart and to the same answers. If the
profile is valid, no name that it denies is allowed, and putting the names that it allows
first would lead to the same policy again. -/
theorem ofProfile_exact (maxBodyBytes maxTreeDepth : Nat) (p : Profile) :
    ((∃ g, ofProfile maxBodyBytes maxTreeDepth p = .ok g) ↔
      ∀ sort as, ∀ name ∈ p.names sort as, sort.IsName name) ∧
    (∀ fault, ofProfile maxBodyBytes maxTreeDepth p = .error fault ↔
      ∃ before after, p.entries = before ++ fault :: after ∧
        (∀ e ∈ before, e.sort.IsName e.entry) ∧ ¬ fault.sort.IsName fault.entry) ∧
    ∀ g, ofProfile maxBodyBytes maxTreeDepth p = .ok g →
      g.policy.options = p.policy ∧
      (∀ sort name, g.policy.nameAllowed sort name = true ↔ name ∈ p.names sort .allowed ∨
        name ∉ p.names sort .denied ∧ name ∉ sort.seeds ∧
          p.policy.value sort.strictness = false) ∧
      (∀ p' : Profile, p'.SameNames p → ∃ g', ofProfile maxBodyBytes maxTreeDepth p' = .ok g' ∧
        g'.policy.Same g.policy ∧ ∀ body, g'.check body = g.check body) ∧
      (p.validate = .ok () →
        (∀ sort, ∀ name ∈ p.names sort .denied, g.policy.nameAllowed sort name = false) ∧
        p.allowFirst.Same g.policy) := by
  refine ⟨exists_ofProfile_iff maxBodyBytes maxTreeDepth p,
    ofProfile_eq_error_iff_first maxBodyBytes maxTreeDepth p, fun g hg => ?_⟩
  obtain ⟨hbytes, hdepth, hp⟩ := ofProfile_eq_ok hg
  refine ⟨options_policyOf hp, nameAllowed_policyOf_iff hp, fun p' hnames => ?_, fun hv => ?_⟩
  · have hall := (exists_ofProfile_iff maxBodyBytes maxTreeDepth p).mp ⟨g, hg⟩
    obtain ⟨g', hg'⟩ := (exists_ofProfile_iff maxBodyBytes maxTreeDepth p').mpr
      fun sort as name hname => hall sort as name ((hnames.names sort as name).mp hname)
    obtain ⟨hbytes', hdepth', hp'⟩ := ofProfile_eq_ok hg'
    have hsame : g'.policy.Same g.policy := same_of_sameNames hp hp' hnames
    exact ⟨g', hg', hsame, check_congr (hbytes'.trans hbytes.symm) (hdepth'.trans hdepth.symm)
      hsame.evaluate_eq⟩
  · refine ⟨fun sort name hdenied => ?_, same_allowFirst hv hp⟩
    rw [Bool.eq_false_iff, Ne, nameAllowed_policyOf_iff hp]
    rintro (hallowed | ⟨hnot, _⟩)
    · exact Profile.not_mem_denied hv sort name hallowed hdenied
    · exact hnot hdenied

/-- A profile that allows a seed name and denies another name, once and twice. -/
theorem ofProfile_exact_eval :
    let p : Profile := { id := "a", denyCalls := ["puts", "p"], allowCalls := ["eval"] }
    let p' : Profile := { id := "a", denyCalls := ["p", "puts", "p"], allowCalls := ["eval"] }
    p.validate = .ok () ∧ p'.SameNames p ∧
    ∃ g g', ofProfile 1024 4 p = .ok g ∧ ofProfile 1024 4 p' = .ok g' ∧
      g.policy.nameAllowed .call "eval" = true ∧ g.policy.nameAllowed .call "puts" = false ∧
      g'.policy.Same g.policy ∧ p.allowFirst.Same g.policy := by
  intro p p'
  have hvalid : p.validate = .ok () := by decide +kernel
  have hnames : p'.SameNames p := by
    have hdenied (name : String) : name ∈ ["p", "puts", "p"] ↔ name ∈ ["puts", "p"] := by grind
    refine ⟨rfl, ?_⟩
    rintro (_ | _) (_ | _) name
    · exact Iff.rfl
    · exact hdenied name
    · exact Iff.rfl
    · exact Iff.rfl
  obtain ⟨g, hg⟩ : ∃ g, ofProfile 1024 4 p = .ok g := ⟨_, rfl⟩
  obtain ⟨-, -, hcompiled⟩ := ofProfile_exact 1024 4 p
  obtain ⟨-, hallowed, hsame, hdenied⟩ := hcompiled g hg
  obtain ⟨g', hg', hpolicy, -⟩ := hsame p' hnames
  refine ⟨hvalid, hnames, g, g', hg, hg', ?_, ?_, hpolicy, (hdenied hvalid).2⟩
  · exact (hallowed .call "eval").mpr (.inl List.mem_cons_self)
  · exact (hdenied hvalid).1 .call "puts" List.mem_cons_self

end Gate

end ScriptGate
