import ScriptGate.Proofs.Json.Counts

/-! Reading the text that was printed for a value.

What is printed for a value is read as that value if its arrays and objects nest no
deeper than the reader goes, and is refused if they do (`Json.ofText?_render`). The
numbers in it have to be counts: another numeral need not have a text that can be read
(`Json.CountsOnly`). -/
namespace ScriptGate.Json
open Text (hexValue hexDigit hexValue_hexDigit)

/-- Every number in the value is a count that fits a machine word. -/
inductive CountsOnly : Json → Prop where
  | null : CountsOnly .null
  | bool (value : Bool) : CountsOnly (.bool value)
  | num {n : Nat} : n ≤ Numeral.wordMax → CountsOnly (.num (.ofNat n))
  | str (value : String) : CountsOnly (.str value)
  | arr {items : List Json} : (∀ v ∈ items, CountsOnly v) → CountsOnly (.arr items)
  | obj {members : List (String × Json)} : (∀ m ∈ members, CountsOnly m.2) →
      CountsOnly (.obj members)

mutual

/-- How many arrays and objects stand inside each other at most. -/
def nesting : Json → Nat
  | .arr items => nestingItems items + 1
  | .obj members => nestingMembers members + 1
  | _ => 0

def nestingItems : List Json → Nat
  | [] => 0
  | v :: vs => max v.nesting (nestingItems vs)

def nestingMembers : List (String × Json) → Nat
  | [] => 0
  | (_, v) :: ms => max v.nesting (nestingMembers ms)

end

/-! ### Strings -/

/-- A character is written by a letter behind a backslash, by its number, or as it is. -/
theorem escape_cases (c : Char) :
    (∃ letter, escape c = ['\\', letter] ∧ shortEscape letter = some c) ∨
    (c < ' ' ∧ escape c =
      ['\\', 'u', '0', '0', hexDigit (c.toNat / 16), hexDigit (c.toNat % 16)]) ∨
    (¬ c < ' ' ∧ c ≠ '"' ∧ c ≠ '\\' ∧ escape c = [c]) := by
  by_cases hquote : c = '"'
  · exact .inl ⟨'"', by subst hquote; decide⟩
  by_cases hslash : c = '\\'
  · exact .inl ⟨'\\', by subst hslash; decide⟩
  by_cases hb : c = '\x08'
  · exact .inl ⟨'b', by subst hb; decide⟩
  by_cases ht : c = '\t'
  · exact .inl ⟨'t', by subst ht; decide⟩
  by_cases hn : c = '\n'
  · exact .inl ⟨'n', by subst hn; decide⟩
  by_cases hf : c = '\x0c'
  · exact .inl ⟨'f', by subst hf; decide⟩
  by_cases hr : c = '\r'
  · exact .inl ⟨'r', by subst hr; decide⟩
  by_cases hcontrol : c < ' '
  · exact .inr (.inl ⟨hcontrol, by simp [escape, hquote, hslash, hb, ht, hn, hf, hr, hcontrol]⟩)
  · exact .inr (.inr ⟨hcontrol, hquote, hslash,
      by simp [escape, hquote, hslash, hb, ht, hn, hf, hr, hcontrol]⟩)

theorem stringBody_shortEscape {letter c : Char} (h : shortEscape letter = some c)
    (done rest : List Char) :
    stringBody done ('\\' :: letter :: rest) = stringBody (c :: done) rest := by
  have hu : letter ≠ 'u' := fun he => by
    subst he
    cases h
  simp [stringBody, hu, h]

theorem stringBody_number {c : Char} (h : c < ' ') (done rest : List Char) :
    stringBody done ('\\' :: 'u' :: '0' :: '0' :: hexDigit (c.toNat / 16) ::
      hexDigit (c.toNat % 16) :: rest) = stringBody (c :: done) rest := by
  have hlt : c.toNat < 32 := h
  have hunit : codeUnit '0' '0' (hexDigit (c.toNat / 16)) (hexDigit (c.toNat % 16)) =
      some c.toNat := by
    have hzero : hexValue '0' = some 0 := by decide
    simp [codeUnit, hzero, hexValue_hexDigit (c.toNat / 16) (by omega),
      hexValue_hexDigit (c.toNat % 16) (by omega)]
    omega
  have hhigh : isHighSurrogate c.toNat = false := by
    simp [isHighSurrogate]
    omega
  have hlow : isLowSurrogate c.toNat = false := by
    simp [isLowSurrogate]
    omega
  simp [stringBody, hunit, hhigh, hlow]

/-- Reading an escaped character is reading the character. -/
theorem stringBody_escape (c : Char) (done rest : List Char) :
    stringBody done (escape c ++ rest) = stringBody (c :: done) rest := by
  rcases escape_cases c with ⟨letter, he, hc⟩ | ⟨hc, he⟩ | ⟨hc, hquote, hslash, he⟩
  · rw [he]
    exact stringBody_shortEscape hc done rest
  · rw [he]
    exact stringBody_number hc done rest
  · rw [he]
    simp [stringBody, hc, hslash]

theorem stringBody_flatMap (cs done rest : List Char) :
    stringBody done (cs.flatMap escape ++ '"' :: rest) = some (done.reverse ++ cs, rest) := by
  induction cs generalizing done with
  | nil => simp [stringBody]
  | cons c cs ih => simp [List.flatMap_cons, stringBody_escape, ih]

theorem string_quoted (s : String) (rest : List Char) :
    string (s.toList.flatMap escape ++ '"' :: rest) = some (s, rest) := by
  simp [string, stringBody_flatMap]

/-! ### Where a value begins -/

theorem skipBlanks_of_not_blank {c : Char} (h : isBlank c = false) (cs : List Char) :
    skipBlanks (c :: cs) = c :: cs := by
  simp [skipBlanks, h]

theorem ne_of_isDigit {c d : Char} (h : c.isDigit = true) (hd : d.isDigit = false) : c ≠ d :=
  fun he => Bool.false_ne_true (hd.symm.trans (he ▸ h))

theorem isBlank_of_isDigit {c : Char} (h : c.isDigit = true) : isBlank c = false := by
  have hne (d : Char) (hd : d.isDigit = false) : c ≠ d := ne_of_isDigit h hd
  simp [isBlank, hne ' ' rfl, hne '\t' rfl, hne '\n' rfl, hne '\r' rfl]

/-- The first character of a value: no blank, and no bracket that closes an array. -/
theorem chars_eq_cons {v : Json} (hv : v.CountsOnly) :
    ∃ c cs, v.chars = c :: cs ∧ isBlank c = false ∧ c ≠ ']' := by
  cases hv with
  | null => exact ⟨_, _, rfl, by decide, by decide⟩
  | bool value => cases value <;> exact ⟨_, _, rfl, by decide, by decide⟩
  | @num n _ =>
    obtain ⟨c, cs, hcs, hc⟩ := Numeral.exists_cons_toDigits n
    exact ⟨c, cs, (numeral_ofNat n).trans hcs, isBlank_of_isDigit hc, ne_of_isDigit hc (by decide)⟩
  | str value => exact ⟨_, _, rfl, by decide, by decide⟩
  | @arr items _ => cases items <;> exact ⟨_, _, rfl, by decide, by decide⟩
  | @obj members _ =>
    rcases members with _ | ⟨⟨key, v⟩, ms⟩ <;> exact ⟨_, _, rfl, by decide, by decide⟩

theorem skipBlanks_chars {v : Json} (hv : v.CountsOnly) (rest : List Char) :
    skipBlanks (v.chars ++ rest) = v.chars ++ rest := by
  obtain ⟨c, cs, hc, hblank, _⟩ := chars_eq_cons hv
  rw [hc, List.cons_append, skipBlanks_of_not_blank hblank]

theorem scalar_of_scan {c : Char} (h : c.isDigit = true) {cs rest : List Char} {n : Numeral}
    (hscan : Numeral.scan (c :: cs) = some (n, rest)) (hn : n.tooLarge = false) :
    scalar (c :: cs) = some (.num n, rest) := by
  have hne (d : Char) (hd : d.isDigit = false) : c ≠ d := ne_of_isDigit h hd
  simp [scalar, hne 'n' rfl, hne 't' rfl, hne 'f' rfl, hne '"' rfl, hscan, hn]

theorem scalar_of_bracket (cs : List Char) : scalar ('[' :: cs) = none ∧ scalar ('{' :: cs) = none := by
  constructor <;> simp [scalar, Numeral.scan, Numeral.scanWhole]

/-! ### Arrays and objects -/

theorem length_le_itemChars (vs : List Json) : vs.length ≤ (itemChars vs).length := by
  induction vs with
  | nil => exact Nat.zero_le _
  | cons v vs ih => simp only [itemChars, List.length_cons, List.length_append]; omega

theorem length_le_memberChars (ms : List (String × Json)) : ms.length ≤ (memberChars ms).length := by
  induction ms with
  | nil => exact Nat.zero_le _
  | cons m ms ih => simp only [memberChars, List.length_cons, List.length_append]; omega

theorem length_chars_le_of_mem {v w : Json} {vs : List Json} (h : w ∈ v :: vs) :
    w.chars.length ≤ v.chars.length + (itemChars vs).length := by
  induction vs generalizing v with
  | nil =>
    obtain rfl := List.mem_singleton.mp h
    exact Nat.le_add_right _ _
  | cons u us ih =>
    simp only [itemChars, List.length_cons, List.length_append]
    rcases List.mem_cons.mp h with rfl | h
    · omega
    · have := ih h
      omega

theorem length_chars_le_of_mem_members {key : String} {v : Json} {m : String × Json}
    {ms : List (String × Json)} (h : m ∈ (key, v) :: ms) :
    m.2.chars.length ≤ v.chars.length + (memberChars ms).length := by
  induction ms generalizing key v with
  | nil =>
    obtain rfl := List.mem_singleton.mp h
    exact Nat.le_add_right _ _
  | cons u us ih =>
    simp only [memberChars, List.length_cons, List.length_append]
    rcases List.mem_cons.mp h with rfl | h
    · show v.chars.length ≤ _
      omega
    · have := ih h
      omega

section Sequence
variable {next : List Char → Option (Json × List Char)} {depth : Nat}

/-- What may follow a value: the end of the text, a comma or a closing bracket. -/
def Follows (rest : List Char) : Prop := ∀ c ∈ rest.head?, c ∈ [',', ']', '}']

theorem follows_itemChars (vs : List Json) (rest : List Char) :
    Follows (itemChars vs ++ ']' :: rest) := by
  cases vs <;> simp [Follows, itemChars]

theorem follows_memberChars (ms : List (String × Json)) (rest : List Char) :
    Follows (memberChars ms ++ '}' :: rest) := by
  cases ms <;> simp [Follows, memberChars]

theorem Follows.endsAt {rest : List Char} (h : Follows rest) : Numeral.EndsAt rest := by
  intro c hc
  have hmark := h c hc
  simp only [List.mem_cons, List.not_mem_nil, or_false] at hmark
  rcases hmark with rfl | rfl | rfl <;> decide

/-- The reader of single values reads back the value, or refuses it for its depth. -/
def ReadsBack (next : List Char → Option (Json × List Char)) (depth : Nat) (v : Json) : Prop :=
  ∀ rest, Follows rest → next (v.chars ++ rest) = if v.nesting ≤ depth then some (v, rest) else none

theorem nestingItems_cons_le_iff (v : Json) (vs : List Json) :
    nestingItems (v :: vs) ≤ depth ↔ v.nesting ≤ depth ∧ nestingItems vs ≤ depth := by
  rw [nestingItems, Nat.max_le]

theorem nestingMembers_cons_le_iff (key : String) (v : Json) (ms : List (String × Json)) :
    nestingMembers ((key, v) :: ms) ≤ depth ↔ v.nesting ≤ depth ∧ nestingMembers ms ≤ depth := by
  rw [nestingMembers, Nat.max_le]

theorem items_succ {v : Json} (hv : v.CountsOnly) (hback : ReadsBack next depth v)
    (done : List Json) (size : Nat) {tail : List Char} (htail : Follows tail) :
    items next done (size + 1) (v.chars ++ tail) =
      if v.nesting ≤ depth then
        match skipBlanks tail with
        | ',' :: cs => items next (v :: done) size cs
        | ']' :: cs => some ((v :: done).reverse, cs)
        | _ => none
      else none := by
  have hread := hback tail htail
  by_cases hd : v.nesting ≤ depth
  · rw [if_pos hd] at hread
    rw [items, skipBlanks_chars hv, hread]
    exact (if_pos hd).symm
  · rw [if_neg hd] at hread
    rw [items, skipBlanks_chars hv, hread]
    exact (if_neg hd).symm

theorem items_chars (v : Json) (vs : List Json) (hv : ∀ w ∈ v :: vs, w.CountsOnly)
    (hback : ∀ w ∈ v :: vs, ReadsBack next depth w) (done : List Json) (size : Nat)
    (hsize : vs.length < size) (rest : List Char) :
    items next done size (v.chars ++ (itemChars vs ++ ']' :: rest)) =
      if nestingItems (v :: vs) ≤ depth then some (done.reverse ++ v :: vs, rest) else none := by
  induction vs generalizing v done size with
  | nil =>
    obtain ⟨size, rfl⟩ := Nat.exists_eq_succ_of_ne_zero (Nat.ne_of_gt hsize)
    have hclose : skipBlanks (itemChars [] ++ ']' :: rest) = ']' :: rest :=
      skipBlanks_of_not_blank (by decide) rest
    rw [items_succ (hv v List.mem_cons_self) (hback v List.mem_cons_self) done size
      (follows_itemChars [] rest), hclose]
    simp [nestingItems]
  | cons w ws ih =>
    obtain ⟨size, rfl⟩ := Nat.exists_eq_succ_of_ne_zero (Nat.ne_of_gt (Nat.zero_lt_of_lt hsize))
    have hcomma : skipBlanks (itemChars (w :: ws) ++ ']' :: rest) =
        ',' :: (w.chars ++ (itemChars ws ++ ']' :: rest)) := by
      rw [itemChars, List.cons_append, skipBlanks_of_not_blank (by decide), List.append_assoc]
    have hrest := ih w (fun u hu => hv u (List.mem_cons_of_mem v hu))
      (fun u hu => hback u (List.mem_cons_of_mem v hu)) (v :: done) size
      (Nat.lt_of_succ_lt_succ hsize)
    rw [items_succ (hv v List.mem_cons_self) (hback v List.mem_cons_self) done size
      (follows_itemChars (w :: ws) rest), hcomma]
    by_cases hd : v.nesting ≤ depth
    · simp [hd, hrest, nestingItems_cons_le_iff v]
    · simp [hd, nestingItems_cons_le_iff v]

theorem members_succ {v : Json} (hv : v.CountsOnly) (hback : ReadsBack next depth v) (key : String)
    (done : List (String × Json)) (size : Nat) {tail : List Char} (htail : Follows tail) :
    members next done (size + 1) (quoted key ++ ':' :: (v.chars ++ tail)) =
      if v.nesting ≤ depth then
        match skipBlanks tail with
        | ',' :: cs => members next ((key, v) :: done) size cs
        | '}' :: cs => some (((key, v) :: done).reverse, cs)
        | _ => none
      else none := by
  have hquoted : quoted key ++ ':' :: (v.chars ++ tail) =
      '"' :: (key.toList.flatMap escape ++ '"' :: ':' :: (v.chars ++ tail)) := by
    simp [quoted]
  have hopen : skipBlanks (quoted key ++ ':' :: (v.chars ++ tail)) =
      '"' :: (key.toList.flatMap escape ++ '"' :: ':' :: (v.chars ++ tail)) := by
    rw [hquoted, skipBlanks_of_not_blank (by decide)]
  have hcolon : skipBlanks (':' :: (v.chars ++ tail)) = ':' :: (v.chars ++ tail) :=
    skipBlanks_of_not_blank (by decide) _
  have hread := hback tail htail
  by_cases hd : v.nesting ≤ depth
  · rw [if_pos hd] at hread
    simp only [members, hopen, string_quoted, hcolon, skipBlanks_chars hv, hread]
    exact (if_pos hd).symm
  · rw [if_neg hd] at hread
    simp only [members, hopen, string_quoted, hcolon, skipBlanks_chars hv, hread]
    exact (if_neg hd).symm

theorem members_chars (key : String) (v : Json) (ms : List (String × Json))
    (hv : ∀ m ∈ (key, v) :: ms, m.2.CountsOnly)
    (hback : ∀ m ∈ (key, v) :: ms, ReadsBack next depth m.2) (done : List (String × Json))
    (size : Nat) (hsize : ms.length < size) (rest : List Char) :
    members next done size (quoted key ++ ':' :: (v.chars ++ (memberChars ms ++ '}' :: rest))) =
      if nestingMembers ((key, v) :: ms) ≤ depth then some (done.reverse ++ (key, v) :: ms, rest)
      else none := by
  induction ms generalizing key v done size with
  | nil =>
    obtain ⟨size, rfl⟩ := Nat.exists_eq_succ_of_ne_zero (Nat.ne_of_gt hsize)
    have hclose : skipBlanks (memberChars [] ++ '}' :: rest) = '}' :: rest :=
      skipBlanks_of_not_blank (by decide) rest
    rw [members_succ (hv _ List.mem_cons_self) (hback _ List.mem_cons_self) key done size
      (follows_memberChars [] rest), hclose]
    simp [nestingMembers]
  | cons m ms ih =>
    obtain ⟨other, w⟩ := m
    obtain ⟨size, rfl⟩ := Nat.exists_eq_succ_of_ne_zero (Nat.ne_of_gt (Nat.zero_lt_of_lt hsize))
    have hcomma : skipBlanks (memberChars ((other, w) :: ms) ++ '}' :: rest) =
        ',' :: (quoted other ++ ':' :: (w.chars ++ (memberChars ms ++ '}' :: rest))) := by
      rw [memberChars, List.cons_append, skipBlanks_of_not_blank (by decide)]
      simp
    have hrest := ih other w (fun u hu => hv u (List.mem_cons_of_mem _ hu))
      (fun u hu => hback u (List.mem_cons_of_mem _ hu)) ((key, v) :: done) size
      (Nat.lt_of_succ_lt_succ hsize)
    rw [members_succ (hv _ List.mem_cons_self) (hback _ List.mem_cons_self) key done size
      (follows_memberChars ((other, w) :: ms) rest), hcomma]
    by_cases hd : v.nesting ≤ depth
    · simp [hd, hrest, nestingMembers_cons_le_iff key v]
    · simp [hd, nestingMembers_cons_le_iff key v]

end Sequence

/-! ### Values and documents -/

theorem value_of_not_bracket (size depth : Nat) {c : Char} (cs : List Char) (harr : c ≠ '[')
    (hobj : c ≠ '{') : value size depth (c :: cs) = scalar (c :: cs) := by
  cases depth <;> simp [value, harr, hobj]

theorem value_open_array (size depth : Nat) {v : Json} (hv : v.CountsOnly) (tail : List Char) :
    value size (depth + 1) ('[' :: (v.chars ++ tail)) =
      (items (value size depth) [] size (v.chars ++ tail)).map fun (vs, rest) => (.arr vs, rest) := by
  rw [value, skipBlanks_chars hv]
  obtain ⟨c, cs, hc, _, hclose⟩ := chars_eq_cons hv
  rw [hc, List.cons_append]
  split
  · next heq => exact absurd (List.cons.inj heq).1 hclose
  · rfl

theorem value_open_object (size depth : Nat) (key : String) (tail : List Char) :
    value size (depth + 1) ('{' :: (quoted key ++ tail)) =
      (members (value size depth) [] size (quoted key ++ tail)).map
        fun (ms, rest) => (.obj ms, rest) := by
  have hopen : skipBlanks (quoted key ++ tail) = quoted key ++ tail :=
    skipBlanks_of_not_blank (by decide) _
  rw [value, hopen]
  rfl

/-- **The text of a value is read as the value if it nests no deeper than allowed, and is
refused if it does**, whatever follows the comma or bracket behind it. -/
theorem value_chars {v : Json} (hv : v.CountsOnly) (size depth : Nat)
    (hsize : v.chars.length ≤ size) : ReadsBack (value size depth) depth v := by
  induction hv generalizing depth with
  | null =>
    intro rest _
    exact value_of_not_bracket size depth _ (by decide) (by decide)
  | bool value =>
    intro rest _
    cases value <;> exact value_of_not_bracket size depth _ (by decide) (by decide)
  | @num n hn =>
    intro rest hrest
    obtain ⟨c, cs, hcs, hc⟩ := Numeral.exists_cons_toDigits n
    have hchars : (Json.num (.ofNat n)).chars ++ rest = c :: (cs ++ rest) := by
      rw [chars, numeral_ofNat, hcs, List.cons_append]
    have hscan : Numeral.scan (c :: (cs ++ rest)) = some (.ofNat n, rest) := by
      rw [← hchars]
      exact Numeral.scan_ofNat n hrest.endsAt
    rw [hchars, value_of_not_bracket size depth _ (ne_of_isDigit hc rfl) (ne_of_isDigit hc rfl)]
    exact scalar_of_scan hc hscan (Numeral.tooLarge_ofNat hn)
  | str value =>
    intro rest _
    rw [chars, quoted, List.cons_append, value_of_not_bracket size depth _ (by decide) (by decide)]
    simp [scalar, string_quoted, nesting]
  | @arr items hv ih =>
    intro rest _
    cases depth with
    | zero =>
      obtain ⟨cs, hcs⟩ : ∃ cs, (Json.arr items).chars = '[' :: cs := by
        cases items <;> exact ⟨_, rfl⟩
      rw [hcs, value, List.cons_append, (scalar_of_bracket _).1]
      simp [nesting]
    | succ depth =>
      cases items with
      | nil => simp [chars, value, skipBlanks, isBlank, nesting, nestingItems]
      | cons v vs =>
        simp only [chars, List.length_cons, List.length_append] at hsize
        have hlength := length_le_itemChars vs
        have hback (w : Json) (hw : w ∈ v :: vs) : ReadsBack (value size depth) depth w := by
          have := length_chars_le_of_mem hw
          exact ih w hw depth (by omega)
        have htext : (Json.arr (v :: vs)).chars ++ rest =
            '[' :: (v.chars ++ (itemChars vs ++ ']' :: rest)) := by
          simp [chars]
        rw [htext, value_open_array size depth (hv v List.mem_cons_self),
          items_chars v vs hv hback [] size (by omega)]
        by_cases hd : nestingItems (v :: vs) ≤ depth
        · simp [hd, nesting]
        · simp [hd, nesting]
  | @obj members hv ih =>
    intro rest _
    cases depth with
    | zero =>
      obtain ⟨cs, hcs⟩ : ∃ cs, (Json.obj members).chars = '{' :: cs := by
        rcases members with _ | ⟨⟨key, v⟩, ms⟩ <;> exact ⟨_, rfl⟩
      rw [hcs, value, List.cons_append, (scalar_of_bracket _).2]
      simp [nesting]
    | succ depth =>
      rcases members with _ | ⟨⟨key, v⟩, ms⟩
      · simp [chars, value, skipBlanks, isBlank, nesting, nestingMembers]
      · simp only [chars, List.length_cons, List.length_append] at hsize
        have hlength := length_le_memberChars ms
        have hback (m : String × Json) (hm : m ∈ (key, v) :: ms) :
            ReadsBack (value size depth) depth m.2 := by
          have := length_chars_le_of_mem_members hm
          exact ih m hm depth (by omega)
        have htext : (Json.obj ((key, v) :: ms)).chars ++ rest =
            '{' :: (quoted key ++ ':' :: (v.chars ++ (memberChars ms ++ '}' :: rest))) := by
          simp [chars]
        rw [htext, value_open_object, members_chars key v ms hv hback [] size (by omega)]
        by_cases hd : nestingMembers ((key, v) :: ms) ≤ depth
        · simp [hd, nesting]
        · simp [hd, nesting]

theorem ofText?_render {v : Json} (hv : v.CountsOnly) (depth : Nat) :
    ofText? depth v.render = if v.nesting ≤ depth then some v else none := by
  have hread := value_chars hv v.chars.length depth (Nat.le_refl _) [] nofun
  have hskip := skipBlanks_chars hv []
  rw [List.append_nil] at hread hskip
  rw [ofText?, render, String.toList_ofList, hskip, hread]
  by_cases hd : v.nesting ≤ depth
  · simp [hd, skipBlanks]
  · simp [hd]

theorem ofBytes?_render {v : Json} (hv : v.CountsOnly) :
    ofBytes? v.render.toUTF8 = if v.nesting ≤ maxNesting then some v else none := by
  have hutf8 : String.fromUTF8? v.render.toUTF8 = some v.render := dif_pos v.render.isValidUTF8
  rw [ofBytes?, hutf8, Option.bind_some, ofText?_render hv]

end ScriptGate.Json
