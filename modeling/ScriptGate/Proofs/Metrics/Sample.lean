import ScriptGate.Metrics.Registry

/-! Lines of the text as data, and how they are read back.

The line of a series is a name, labels between braces and a number: a `Sample`. A value
is written in three passes over its text, which come to writing each character on its own
(`LabelSet.quoted_eq`), so a reader that takes a character behind a backslash for what it
stands for finds the value's end and the value. With that a line is read as the sample it
was written for, whatever the values of its labels hold, as long as the names of the labels
are names (`Sample.read?_text`). -/
namespace ScriptGate.Metrics

/-- A letter or an underscore, then letters, digits and underscores. -/
def Label.isName (name : String) : Bool :=
  match name.toList with
  | [] => false
  | c :: cs => (c.isAlpha || c = '_') && cs.all fun d => d.isAlphanum || d = '_'

theorem Label.exists_of_isName {name : String} (h : isName name) :
    ∃ c cs, name.toList = c :: cs ∧ ∀ d ∈ c :: cs, d.isAlphanum ∨ d = '_' := by
  unfold isName at h
  split at h
  · cases h
  · next c cs hname =>
    simp only [Bool.and_eq_true, Bool.or_eq_true, decide_eq_true_eq, List.all_eq_true] at h
    refine ⟨c, cs, hname, List.forall_mem_cons.mpr ⟨h.1.imp_left fun hc => ?_, h.2⟩⟩
    simp [Char.isAlphanum, hc]

theorem Label.not_mem_of_isName {name : String} (h : isName name) {d : Char}
    (hd : d.isAlphanum = false) (hu : d ≠ '_') : d ∉ name.toList := by
  obtain ⟨c, cs, hname, hall⟩ := exists_of_isName h
  intro hmem
  rw [hname] at hmem
  rcases hall d hmem with hd' | hd'
  · rw [hd] at hd'
    cases hd'
  · exact hu hd'

theorem isDigit_of_mem_toString {n : Nat} {c : Char} (h : c ∈ (toString n).toList) : c.isDigit := by
  rw [Nat.toString_eq_repr, Nat.repr_eq_ofList_toDigits, String.toList_ofList] at h
  exact Nat.isDigit_of_mem_toDigits (by decide) (by decide) h

theorem ofDigitChars_toString (n : Nat) : Nat.ofDigitChars 10 (toString n).toList 0 = n := by
  rw [Nat.toString_eq_repr, Nat.repr_eq_ofList_toDigits, String.toList_ofList,
    Nat.ofDigitChars_toDigits (by decide) (by decide)]

/-! ### Values -/

namespace LabelSet

/-- A character of a label's value, as it is written between quotes. -/
def escape (c : Char) : List Char :=
  if c = '\\' then ['\\', '\\']
  else if c = '"' then ['\\', '"']
  else if c = '\n' then ['\\', 'n']
  else [c]

theorem escape_cases (c : Char) :
    (∃ d, escape c = ['\\', d] ∧ d ≠ '\n' ∧ (if d = 'n' then '\n' else d) = c) ∨
    (c ≠ '\\' ∧ c ≠ '"' ∧ c ≠ '\n' ∧ escape c = [c]) := by
  by_cases hslash : c = '\\'
  · exact .inl ⟨'\\', by subst hslash; decide⟩
  by_cases hquote : c = '"'
  · exact .inl ⟨'"', by subst hquote; decide⟩
  by_cases hline : c = '\n'
  · exact .inl ⟨'n', by subst hline; decide⟩
  exact .inr ⟨hslash, hquote, hline, by simp [escape, hslash, hquote, hline]⟩

/-- **The three passes write each character on its own**: what one of them puts in is left
alone by those after it. -/
theorem quoted_eq (value : String) :
    quoted value = "\"" ++ String.ofList (value.toList.flatMap escape) ++ "\"" := by
  have hpasses (c : Char) : replace '\n' ['\\', 'n'] (replace '"' ['\\', '"']
      (if c = '\\' then ['\\', '\\'] else [c])) = escape c := by
    by_cases hslash : c = '\\'
    · subst hslash
      decide
    by_cases hquote : c = '"'
    · subst hquote
      decide
    simp [replace, escape, hslash, hquote]
  rw [← funext hpasses]
  simp only [quoted, replace, List.flatMap_assoc]

theorem flatMap_escape_of_plain {cs : List Char}
    (h : ∀ c ∈ cs, c ≠ '\\' ∧ c ≠ '"' ∧ c ≠ '\n') : cs.flatMap escape = cs := by
  induction cs with
  | nil => rfl
  | cons c cs ih =>
    obtain ⟨hc, hcs⟩ := List.forall_mem_cons.mp h
    simp [escape, hc, ih hcs]

theorem quoted_toString (n : Nat) : quoted (toString n) = "\"" ++ toString n ++ "\"" := by
  rw [quoted_eq, flatMap_escape_of_plain fun c hc => ?_, String.ofList_toList]
  have hdigit := isDigit_of_mem_toString hc
  refine ⟨?_, ?_, ?_⟩ <;> rintro rfl <;> cases hdigit

/-- The value up to the closing quote, and what follows the quote. -/
def readValue : List Char → Option (List Char × List Char)
  | [] => none
  | '"' :: rest => some ([], rest)
  | '\\' :: c :: rest =>
    (readValue rest).map fun (value, rest) => ((if c = 'n' then '\n' else c) :: value, rest)
  | c :: rest => (readValue rest).map fun (value, rest) => (c :: value, rest)

theorem readValue_flatMap_escape (value rest : List Char) :
    readValue (value.flatMap escape ++ '"' :: rest) = some (value, rest) := by
  induction value with
  | nil => rfl
  | cons c value ih =>
    rw [List.flatMap_cons, List.append_assoc]
    rcases escape_cases c with ⟨d, hd, _, hc⟩ | ⟨hslash, _, _, hc⟩
    · simp [hd, readValue, ih, hc]
    · simp [hc, readValue, ih, hslash]

/-! ### Labels -/

/-- The labels up to the closing brace, of which there is one at least, and what follows the
brace. `size` bounds their number. -/
def readLabels : (size : Nat) → List Char → Option (LabelSet × List Char)
  | 0, _ => none
  | size + 1, cs =>
    match cs.dropWhile (· ≠ '=') with
    | '=' :: '"' :: rest =>
      match readValue rest with
      | some (value, mark :: rest) =>
        let label := (String.ofList (cs.takeWhile (· ≠ '=')), String.ofList value)
        if mark = ',' then
          (readLabels size rest).map fun (labels, rest) => (label :: labels, rest)
        else if mark = '}' then some ([label], rest)
        else none
      | _ => none
    | _ => none

/-- The labels behind an opening brace. -/
def readBraced : List Char → Option (LabelSet × List Char)
  | '}' :: rest => some ([], rest)
  | cs => readLabels cs.length cs

theorem toList_text_singleton (l : Label) :
    (text [l]).toList = l.1.toList ++ '=' :: '"' :: (l.2.toList.flatMap escape ++ ['"']) := by
  simp [text, quoted_eq]

theorem toList_text_cons_cons (l m : Label) (rest : LabelSet) :
    (text (l :: m :: rest)).toList = (text [l]).toList ++ ',' :: (text (m :: rest)).toList := by
  simp [text, String.intercalate_cons_cons]

/-- A label and its mark, a comma or the closing brace, are read off the front. -/
theorem readLabels_succ {l : Label} (hname : Label.isName l.1) (size : Nat) (mark : Char)
    (rest : List Char) :
    readLabels (size + 1) ((text [l]).toList ++ mark :: rest) =
      if mark = ',' then (readLabels size rest).map fun (labels, rest) => (l :: labels, rest)
      else if mark = '}' then some ([l], rest) else none := by
  have hne : ∀ c ∈ l.1.toList, decide (c ≠ '=') = true := by
    intro c hc
    have := Label.not_mem_of_isName hname (d := '=') (by decide) (by decide)
    grind
  have htext : (text [l]).toList ++ mark :: rest =
      l.1.toList ++ '=' :: '"' :: (l.2.toList.flatMap escape ++ '"' :: mark :: rest) := by
    simp [toList_text_singleton]
  rw [htext, readLabels, List.dropWhile_append_of_pos hne, List.takeWhile_append_of_pos hne]
  simp [readValue_flatMap_escape]

theorem readLabels_text (l : Label) (labels : LabelSet) (hnames : ∀ m ∈ l :: labels, Label.isName m.1)
    (size : Nat) (hsize : labels.length < size) (rest : List Char) :
    readLabels size ((text (l :: labels)).toList ++ '}' :: rest) = some (l :: labels, rest) := by
  induction labels generalizing l size with
  | nil =>
    obtain ⟨size, rfl⟩ := Nat.exists_eq_add_one_of_ne_zero (Nat.ne_of_gt hsize)
    rw [readLabels_succ (hnames l List.mem_cons_self)]
    rfl
  | cons m labels ih =>
    obtain ⟨size, rfl⟩ := Nat.exists_eq_add_one_of_ne_zero (Nat.ne_zero_of_lt hsize)
    obtain ⟨hl, hrest⟩ := List.forall_mem_cons.mp hnames
    rw [toList_text_cons_cons, List.append_assoc, List.cons_append, readLabels_succ hl,
      if_pos rfl, ih m hrest size (Nat.lt_of_succ_lt_succ hsize)]
    rfl

theorem length_le_text (labels : LabelSet) : labels.length ≤ (text labels).toList.length := by
  induction labels with
  | nil => exact Nat.zero_le _
  | cons l rest ih =>
    cases rest with
    | nil =>
      simp only [toList_text_singleton, List.length_append, List.length_cons, List.length_nil]
      omega
    | cons m rest =>
      simp only [toList_text_cons_cons, List.length_append, List.length_cons] at ih ⊢
      omega

theorem readBraced_of_ne {c : Char} (h : c ≠ '}') (cs : List Char) :
    readBraced (c :: cs) = readLabels (cs.length + 1) (c :: cs) := by
  simp [readBraced, h]

theorem readBraced_text {labels : LabelSet} (hnames : ∀ l ∈ labels, Label.isName l.1)
    (rest : List Char) :
    readBraced ((text labels).toList ++ '}' :: rest) = some (labels, rest) := by
  cases labels with
  | nil => rfl
  | cons l labels =>
    obtain ⟨c, cs, htext, hc⟩ : ∃ c cs, (text (l :: labels)).toList = c :: cs ∧ c ≠ '}' := by
      obtain ⟨c, cs, hname, hall⟩ := Label.exists_of_isName (hnames l List.mem_cons_self)
      have hc : c ≠ '}' := by
        rintro rfl
        exact absurd (hall '}' List.mem_cons_self) (by decide)
      cases labels with
      | nil => exact ⟨c, _, by rw [toList_text_singleton, hname]; rfl, hc⟩
      | cons m labels =>
        exact ⟨c, _, by rw [toList_text_cons_cons, toList_text_singleton, hname]; rfl, hc⟩
    have hsize : labels.length < (cs ++ '}' :: rest).length + 1 := by
      have := length_le_text (l :: labels)
      simp only [htext, List.length_append, List.length_cons] at this ⊢
      omega
    have hread := readLabels_text l labels hnames _ hsize rest
    rw [htext, List.cons_append] at hread ⊢
    rw [readBraced_of_ne hc, hread]

/-- Nothing that is written for labels breaks the line. -/
theorem newline_not_mem_text {labels : LabelSet} (hnames : ∀ l ∈ labels, Label.isName l.1) :
    '\n' ∉ (text labels).toList := by
  have hescape (c : Char) : '\n' ∉ escape c := by
    rcases escape_cases c with ⟨d, hd, hne, _⟩ | ⟨_, _, hne, hc⟩
    · simp [hd, hne.symm]
    · simp [hc, hne.symm]
  have hlabel {l : Label} (hl : Label.isName l.1) : '\n' ∉ (text [l]).toList := by
    have := Label.not_mem_of_isName hl (d := '\n') (by decide) (by decide)
    simp [toList_text_singleton, this, hescape]
  induction labels with
  | nil => exact List.not_mem_nil
  | cons l rest ih =>
    obtain ⟨hl, hrest⟩ := List.forall_mem_cons.mp hnames
    cases rest with
    | nil => exact hlabel hl
    | cons m rest => simp [toList_text_cons_cons, hlabel hl, ih hrest]

theorem text_eq_empty_iff (labels : LabelSet) : text labels = "" ↔ labels = [] := by
  constructor
  · intro h
    have := length_le_text labels
    rw [h] at this
    exact List.length_eq_zero_iff.mp (Nat.le_zero.mp this)
  · rintro rfl
    rfl

/-- One more label at the end. -/
theorem text_concat (labels : LabelSet) (l : Label) :
    text (labels ++ [l]) = (if labels.isEmpty then "" else text labels ++ ",") ++ text [l] := by
  induction labels with
  | nil => simp
  | cons k rest ih =>
    refine String.toList_inj.mp ?_
    cases rest with
    | nil => simp [toList_text_cons_cons]
    | cons m rest =>
      rw [List.cons_append, List.cons_append, toList_text_cons_cons, ← List.cons_append, ih]
      simp [toList_text_cons_cons]

end LabelSet

/-! ### Samples -/

/-- A value under a name and labels. -/
structure Sample where
  name : String
  labels : LabelSet
  value : Nat
  deriving DecidableEq, Repr

namespace Sample

def text (s : Sample) : String :=
  s.name ++ "\x7b" ++ s.labels.text ++ "\x7d " ++ toString s.value

/-- The sample a line is written for. -/
def read? (line : String) : Option Sample :=
  match line.toList.dropWhile (· ≠ '{') with
  | '{' :: rest =>
    match LabelSet.readBraced rest with
    | some (labels, ' ' :: digits) =>
      some ⟨String.ofList (line.toList.takeWhile (· ≠ '{')), labels, Nat.ofDigitChars 10 digits 0⟩
    | _ => none
  | _ => none

/-- What a line needs to be read back: a name that no brace ends early, and labels with
names. -/
structure Readable (s : Sample) : Prop where
  name : '{' ∉ s.name.toList
  labels : ∀ l ∈ s.labels, Label.isName l.1

theorem toList_text (s : Sample) :
    s.text.toList = s.name.toList ++
      '{' :: (s.labels.text.toList ++ '}' :: ' ' :: (toString s.value).toList) := by
  simp [text]

/-- **A line is read as the sample it was written for**, whatever the values of its labels. -/
theorem read?_text {s : Sample} (h : s.Readable) : read? s.text = some s := by
  have hne : ∀ c ∈ s.name.toList, decide (c ≠ '{') = true := by
    intro c hc
    have := h.name
    grind
  unfold read?
  rw [toList_text, List.dropWhile_append_of_pos hne, List.takeWhile_append_of_pos hne,
    List.dropWhile_cons_of_neg (by decide), List.takeWhile_cons_of_neg (by decide)]
  simp only [LabelSet.readBraced_text h.labels, ofDigitChars_toString,
    List.append_nil, String.ofList_toList]

theorem newline_not_mem_text {s : Sample} (h : s.Readable) (hname : '\n' ∉ s.name.toList) :
    '\n' ∉ s.text.toList := by
  have hvalue : '\n' ∉ (toString s.value).toList := fun hmem =>
    absurd (isDigit_of_mem_toString hmem) (by decide)
  rw [toList_text]
  simp only [List.mem_append, List.mem_cons, hname, LabelSet.newline_not_mem_text h.labels, hvalue]
  decide

end Sample

/-! ### The lines of a series -/

namespace Histogram

/-- What the lines of a series say: a bucket for each bound and one without bound, the sum
and the count. The bound is the last label of a bucket. -/
def samples (name : String) (series : LabelSet × Histogram) : List Sample :=
  List.zipWith
    (fun bound n => ⟨name ++ "_bucket", series.1 ++ [("le", toString bound.toNat)], n.toNat⟩)
    bounds series.2.buckets ++
  [⟨name ++ "_bucket", series.1 ++ [("le", "+Inf")], series.2.count.toNat⟩,
    ⟨name ++ "_sum", series.1, series.2.sum.toNat⟩,
    ⟨name ++ "_count", series.1, series.2.count.toNat⟩]

theorem lines_eq (name : String) (series : LabelSet × Histogram) :
    lines name series = (samples name series).map Sample.text := by
  obtain ⟨labels, h⟩ := series
  have hbucket (bound : String) (hq : LabelSet.quoted bound = "\"" ++ bound ++ "\"") (n : UInt64) :
      Sample.text ⟨name ++ "_bucket", labels ++ [("le", bound)], n.toNat⟩ =
        name ++ "_bucket\x7b" ++
          (if (LabelSet.text labels).isEmpty then "" else labels.text ++ ",") ++
          "le=\"" ++ bound ++ "\"\x7d " ++ toString n.toNat := by
    have hempty : (LabelSet.text labels).isEmpty = labels.isEmpty := by
      rw [Bool.eq_iff_iff, String.isEmpty_iff, LabelSet.text_eq_empty_iff, List.isEmpty_iff]
    have hle : LabelSet.text [("le", bound)] = "le=\"" ++ bound ++ "\"" := by
      refine String.toList_inj.mp ?_
      simp [LabelSet.text, hq]
    rw [Sample.text, LabelSet.text_concat, hle, hempty]
    refine String.toList_inj.mp ?_
    simp
  simp only [lines, samples, List.map_append, List.map_zipWith, List.map_cons, List.map_nil,
    hbucket _ (LabelSet.quoted_toString _), hbucket "+Inf" (by rfl)]
  rfl

end Histogram

end ScriptGate.Metrics
