import Mathlib.Data.List.Basic
import ScriptGate.Error
import ScriptGate.Proofs.Text.Quoting

/-! The form of the names a profile may list (`NameSort.admits_iff`), and what becomes of a
list with an entry that is no name (`NameSort.compile_eq`, `NameSort.compile_exact`). -/
namespace ScriptGate

namespace NameSort

/-- The name of a call is put together from name characters and perhaps a mark. -/
def Splits (name : String) (base : List Char) (mark : Option Char) : Prop :=
  name.toList = base ++ mark.toList ∧ base ≠ [] ∧ (∀ c ∈ base, isNameChar c = true) ∧
    ∀ c ∈ mark, isCallMark c = true

/-- The form of a name: for a call name characters and perhaps a mark, for a constant a capital
letter and name characters. -/
def IsName : NameSort → String → Prop
  | .call, name => ∃ base mark, Splits name base mark
  | .constant, name => ∃ (first : Char) (rest : List Char), name.toList = first :: rest ∧
      first.isUpper = true ∧ ∀ c ∈ rest, isNameChar c = true

theorem isCallMark_eq_false {c : Char} (h : isNameChar c = true) : isCallMark c = false := by
  rw [Bool.eq_false_iff]
  intro hmark
  simp only [isCallMark, Bool.or_eq_true, decide_eq_true_eq] at hmark
  rcases hmark with (rfl | rfl) | rfl <;> revert h <;> decide

theorem callBase_concat (base : List Char) (c : Char) :
    callBase (base ++ [c]) = if isCallMark c then base else base ++ [c] := by
  rw [callBase, List.getLast?_concat, List.dropLast_concat]

theorem callBase_append_toList {base : List Char} (hne : base ≠ [])
    (hbase : ∀ c ∈ base, isNameChar c = true) {mark : Option Char}
    (hmark : ∀ c ∈ mark, isCallMark c = true) : callBase (base ++ mark.toList) = base := by
  cases mark with
  | some c => exact (callBase_concat base c).trans (if_pos (hmark c rfl))
  | none =>
    -- The last character belongs to the base, so it is no mark.
    obtain ⟨init, c, rfl⟩ := (List.eq_nil_or_concat' base).resolve_left hne
    have hc : isNameChar c = true := hbase c (List.mem_append_right init List.mem_cons_self)
    rw [Option.toList_none, List.append_nil, callBase_concat, isCallMark_eq_false hc]
    rfl

/-- What is let in as a name is what has the form of one. -/
theorem admits_iff (sort : NameSort) (name : String) : sort.admits name = true ↔ sort.IsName name := by
  cases sort with
  | call =>
    simp only [admits, IsName, Splits, Bool.and_eq_true, Bool.not_eq_true',
      List.isEmpty_eq_false_iff, List.all_eq_true]
    constructor
    · rintro ⟨hne, hbase⟩
      rcases List.eq_nil_or_concat' name.toList with hnil | ⟨init, c, hname⟩
      · rw [hnil] at hne
        exact absurd rfl hne
      · rw [hname, callBase_concat] at hne hbase
        rw [hname]
        cases hmark : isCallMark c with
        | true =>
          rw [hmark] at hne hbase
          exact ⟨init, some c, rfl, hne, hbase, by simpa using hmark⟩
        | false =>
          rw [hmark] at hne hbase
          exact ⟨init ++ [c], none, (List.append_nil _).symm, hne, hbase, nofun⟩
    · rintro ⟨base, mark, hname, hne, hbase, hmark⟩
      rw [hname, callBase_append_toList hne hbase hmark]
      exact ⟨hne, hbase⟩
  | constant =>
    simp only [admits, IsName]
    cases name.toList with
    | nil => simp
    | cons first rest =>
      simp only [List.cons.injEq, Bool.and_eq_true, List.all_eq_true]
      constructor
      · intro h
        exact ⟨first, rest, ⟨rfl, rfl⟩, h⟩
      · rintro ⟨_, _, ⟨rfl, rfl⟩, h⟩
        exact h

end NameSort

/-- The entry is indeed no name of its sort. -/
def NameFault.occurs (f : NameFault) : Bool := !f.sort.admits f.entry

theorem NameFault.occurs_eq_false_iff (f : NameFault) :
    f.occurs = false ↔ f.sort.IsName f.entry := by
  rw [NameFault.occurs, Bool.not_eq_false', f.sort.admits_iff]

/-- A list is taken as it stands, or refused for its first entry that is no name. -/
theorem NameSort.compile_eq (sort : NameSort) (field : String) (names : List String) :
    sort.compile field names =
      match (names.map (NameFault.mk sort field)).find? NameFault.occurs with
      | some fault => .error fault
      | none => .ok names := by
  rw [compile, List.find?_map]
  have hoccurs : NameFault.occurs ∘ NameFault.mk sort field = fun name => !sort.admits name := rfl
  rw [hoccurs]
  cases names.find? fun name => !sort.admits name <;> rfl

/-! ### Lists of names -/

/-- Entries of one list that are reported alike are the same. -/
theorem NameFault.entry_eq_of_message_eq {sort : NameSort} {field entry other : String}
    (h : message ⟨sort, field, entry⟩ = message ⟨sort, field, other⟩) : entry = other := by
  unfold message at h
  simp only [String.append_left_inj, String.append_right_inj] at h
  exact Text.quoted_injective h

namespace NameSort

/-- There is one way to put a name together: the base is what is left without the mark. -/
theorem Splits.unique {name : String} {base base' : List Char} {mark mark' : Option Char}
    (h : Splits name base mark) (h' : Splits name base' mark') : base = base' ∧ mark = mark' := by
  obtain ⟨hname, hne, hbase, hmark⟩ := h
  obtain ⟨hname', hne', hbase', hmark'⟩ := h'
  have hbases : base = base' := by
    rw [← callBase_append_toList hne hbase hmark, ← hname, hname',
      callBase_append_toList hne' hbase' hmark']
  refine ⟨hbases, ?_⟩
  rw [hname, hbases, List.append_cancel_left_eq] at hname'
  cases mark <;> cases mark' <;> simp_all

variable (sort : NameSort)

/-- The entry is the first of the list that is no name of this sort. -/
def FirstFault (names : List String) (entry : String) : Prop :=
  ∃ before after, names = before ++ entry :: after ∧
    (∀ name ∈ before, sort.IsName name) ∧ ¬ sort.IsName entry

theorem find?_eq_some_iff_firstFault (names : List String) (entry : String) :
    (names.find? fun name => !sort.admits name) = some entry ↔ sort.FirstFault names entry := by
  rw [List.find?_eq_some_iff_append, and_comm]
  simp only [FirstFault, ← admits_iff, Bool.not_not, Bool.not_eq_true', Bool.not_eq_true,
    ← exists_and_right, and_assoc]

theorem find?_eq_none_iff_isName (names : List String) :
    (names.find? fun name => !sort.admits name) = none ↔ ∀ name ∈ names, sort.IsName name := by
  simp only [List.find?_eq_none, ← admits_iff, Bool.not_eq_true', Bool.not_eq_false]

variable (field : String) (names : List String)

theorem compile_eq_ok_iff (out : List String) :
    sort.compile field names = .ok out ↔ out = names ∧ ∀ name ∈ names, sort.IsName name := by
  rw [compile, ← find?_eq_none_iff_isName]
  cases names.find? fun name => !sort.admits name with
  | some entry => simp
  | none => simp [eq_comm]

theorem compile_eq_error_iff (fault : NameFault) :
    sort.compile field names = .error fault ↔
      fault.sort = sort ∧ fault.field = field ∧ sort.FirstFault names fault.entry := by
  rw [compile, ← find?_eq_some_iff_firstFault]
  obtain ⟨sort', field', entry'⟩ := fault
  cases names.find? fun name => !sort.admits name with
  | some entry => simp [eq_comm]
  | none => simp

/-- **A list of names is taken as it stands exactly if every entry has the form of a name, and
otherwise refused for the first entry that has not.** The refusal is a bad request that shows
the field and the entry, and no other entry of the list would be shown alike; what follows the
entry plays no part. A call's name falls into a base and a mark in one way only. A text without
a base, with two marks or with a colon is refused wherever it stands. -/
theorem compile_exact :
    (∀ out, sort.compile field names = .ok out ↔
      out = names ∧ ∀ name ∈ names, sort.IsName name) ∧
    (∀ fault, sort.compile field names = .error fault ↔
      fault.sort = sort ∧ fault.field = field ∧ sort.FirstFault names fault.entry) ∧
    (∀ fault, sort.compile field names = .error fault →
      (Error.name fault).code = .badRequest ∧
      (Error.name fault).message = "bad request: " ++ ("invalid " ++ field ++ " entry: " ++
        Text.quoted fault.entry ++ " (expected " ++ NameFault.expected sort ++ ")") ∧
      ∀ entry, (Error.name ⟨sort, field, entry⟩).message = (Error.name fault).message →
        entry = fault.entry) ∧
    (∀ name, call.IsName name →
      ∃! parts : List Char × Option Char, Splits name parts.1 parts.2) ∧
    ∀ entry ∈ ["", "?", "==", "a?!", "A::B"], entry ∈ names →
      ∃ fault, sort.compile field names = .error fault := by
  refine ⟨sort.compile_eq_ok_iff field names, sort.compile_eq_error_iff field names, ?_, ?_, ?_⟩
  · rintro ⟨sort', field', first⟩ herror
    obtain ⟨hsort, hfield, -⟩ := (sort.compile_eq_error_iff field names _).mp herror
    obtain rfl : sort' = sort := hsort
    obtain rfl : field' = field := hfield
    refine ⟨rfl, rfl, fun entry hmessage => ?_⟩
    have hdetail : NameFault.message ⟨sort', field', entry⟩ = NameFault.message ⟨_, _, first⟩ :=
      (String.append_right_inj "bad request: ").mp hmessage
    exact NameFault.entry_eq_of_message_eq hdetail
  · intro name hname
    obtain ⟨base, mark, hsplits⟩ := hname
    refine ⟨(base, mark), hsplits, ?_⟩
    rintro ⟨base', mark'⟩ hsplits'
    obtain ⟨rfl, rfl⟩ := hsplits'.unique hsplits
    rfl
  · intro entry hentry hmem
    have hrefused : ∀ entry ∈ ["", "?", "==", "a?!", "A::B"], sort.admits entry = false := by
      cases sort <;> decide
    cases hcompile : sort.compile field names with
    | error fault => exact ⟨fault, rfl⟩
    | ok out =>
      have hname := ((sort.compile_eq_ok_iff field names out).mp hcompile).2 entry hmem
      rw [← admits_iff, hrefused entry hentry] at hname
      cases hname

/-- A list with two entries that are no names is refused for the one that comes first. -/
theorem compile_exact_doubled_mark :
    let names := ["empty?", "a?!", "=="]
    let fault : NameFault := ⟨.call, "deny_calls", "a?!"⟩
    call.FirstFault names "a?!" ∧ call.compile "deny_calls" names = .error fault ∧
    (Error.name fault).code = .badRequest ∧ call.IsName "empty?" ∧
    (∃! parts : List Char × Option Char, Splits "empty?" parts.1 parts.2) ∧
    ∃ other, constant.compile "deny_constants" names = .error other := by
  intro names fault
  obtain ⟨-, herror, hmessage, hsplits, -⟩ := compile_exact .call "deny_calls" names
  obtain ⟨-, -, -, -, hrefused⟩ := compile_exact .constant "deny_constants" names
  have hfirst : call.FirstFault names "a?!" :=
    (call.find?_eq_some_iff_firstFault names "a?!").mp (by decide)
  have hcompile := (herror fault).mpr ⟨rfl, rfl, hfirst⟩
  have hname : call.IsName "empty?" := (call.admits_iff "empty?").mp (by decide)
  exact ⟨hfirst, hcompile, (hmessage fault hcompile).1, hname, hsplits "empty?" hname,
    hrefused "a?!" (by decide) (by decide)⟩

end NameSort

end ScriptGate
