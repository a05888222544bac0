import ScriptGate.Proofs.Json.Printed

/-! No text of a value is shorter than the one printed for it.

Each of the readers takes from its text at least what would be printed for what it finds
there (`Pays`). Repeated names do not matter to this, since an object keeps all its members;
escapes and blanks only make a text longer. -/
namespace ScriptGate.Json

/-- What the reader takes from a text is no shorter than what is printed for the value read. -/
def Pays (next : List Char → Option (Json × List Char)) : Prop :=
  ∀ ⦃cs rest : List Char⦄ ⦃v : Json⦄, next cs = some (v, rest) →
    v.chars.length + rest.length ≤ cs.length

theorem length_skipBlanks_le (cs : List Char) : (skipBlanks cs).length ≤ cs.length :=
  (List.dropWhile_sublist _).length_le

theorem length_lt_of_skipBlanks {cs after : List Char} {c : Char} (h : skipBlanks cs = c :: after) :
    after.length < cs.length := by
  have := length_skipBlanks_le cs
  rwa [h] at this

/-! ### Strings -/

theorem length_escape_le (c : Char) : (escape c).length ≤ 6 := by
  rcases escape_cases c with ⟨_, he, _⟩ | ⟨_, he⟩ | ⟨_, _, _, he⟩ <;> simp [he]

theorem length_escape_of_shortEscape {letter c : Char} (h : shortEscape letter = some c) :
    (escape c).length ≤ 2 := by
  unfold shortEscape at h
  split at h <;> cases h <;> decide

theorem escape_of_plain {c : Char} (hquote : c ≠ '"') (hslash : c ≠ '\\') (hcontrol : ¬ c < ' ') :
    escape c = [c] := by
  have hne : ∀ d, d < ' ' → c ≠ d := fun d hd he => hcontrol (he ▸ hd)
  simp [escape, hquote, hslash, hcontrol, hne '\x08' (by decide), hne '\t' (by decide),
    hne '\n' (by decide), hne '\x0c' (by decide), hne '\r' (by decide)]

theorem length_flatMap_escape_le {done cs text rest : List Char}
    (h : stringBody done cs = some (text, rest)) :
    (text.flatMap escape).length + 1 + rest.length ≤ (done.flatMap escape).length + cs.length := by
  fun_induction stringBody done cs with
  | case1 done rest =>
    obtain ⟨rfl, rfl⟩ := Prod.mk.inj (Option.some.inj h)
    rw [((List.reverse_perm done).flatMap_right escape).length_eq, List.length_cons]
    omega
  -- the cases in which reading goes on: a pair, a number, a letter, a character as it is
  | case4 done a b c d high _ _ e f g i rest low _ _ ih =>
    have hpair := length_escape_le (surrogatePair high low)
    have := ih h
    simp only [List.flatMap_cons, List.length_append, List.length_cons] at this ⊢
    omega
  | case8 done a b c d rest unit _ _ _ ih =>
    have hunit := length_escape_le (Char.ofNat unit)
    have := ih h
    simp only [List.flatMap_cons, List.length_append, List.length_cons] at this ⊢
    omega
  | case10 done c rest _ escaped hescaped ih =>
    have hshort := length_escape_of_shortEscape hescaped
    have := ih h
    simp only [List.flatMap_cons, List.length_append, List.length_cons] at this ⊢
    omega
  | case12 done c rest hquote _ _ hplain ih =>
    simp only [Bool.or_eq_true, decide_eq_true_eq, not_or] at hplain
    have := ih h
    simp only [List.flatMap_cons, List.length_append, List.length_cons, List.length_nil,
      escape_of_plain hquote hplain.2 hplain.1] at this ⊢
    omega
  | _ => cases h

theorem length_quoted_le {cs rest : List Char} {text : String} (h : string cs = some (text, rest)) :
    (quoted text).length + rest.length ≤ cs.length + 1 := by
  obtain ⟨⟨body, rest'⟩, hbody, heq⟩ := Option.map_eq_some_iff.mp h
  obtain ⟨rfl, rfl⟩ := Prod.mk.inj heq
  have := length_flatMap_escape_le hbody
  simp only [quoted, String.toList_ofList, List.length_cons, List.length_append, List.length_nil,
    List.flatMap_nil] at this ⊢
  omega

/-! ### Numbers -/

theorem length_takeWhile_add (p : Char → Bool) (cs : List Char) :
    (cs.takeWhile p).length + (cs.dropWhile p).length = cs.length := by
  rw [← List.length_append, List.takeWhile_append_dropWhile]

theorem length_whole_add {cs whole rest : List Char} (h : Numeral.scanWhole cs = some (whole, rest)) :
    whole.length + rest.length = cs.length := by
  unfold Numeral.scanWhole at h
  have := length_takeWhile_add Char.isDigit cs
  split at h <;> cases h
  exact this

theorem length_fraction_add {cs rest : List Char} {fraction : Option (List Char)}
    (h : Numeral.scanFraction cs = some (fraction, rest)) :
    fraction.elim 0 (·.length + 1) + rest.length = cs.length := by
  unfold Numeral.scanFraction at h
  split at h
  · next rest' =>
    have := length_takeWhile_add Char.isDigit rest'
    split at h <;> cases h
    simp only [Option.elim_some, List.length_cons]
    omega
  · cases h
    simp

theorem length_exponent_add_le {cs rest : List Char} {exponent : Option (Bool × List Char)}
    (h : Numeral.scanExponent cs = some (exponent, rest)) :
    exponent.elim 0 (fun e => e.2.length + (if e.1 then 2 else 1)) + rest.length ≤ cs.length := by
  unfold Numeral.scanExponent at h
  split at h
  · next mark after =>
    split at h
    · split at h
      next negative digits hsign =>
      have hlength : digits.length + (if negative then 1 else 0) ≤ after.length := by
        split at hsign <;> cases hsign <;> simp
      have := length_takeWhile_add Char.isDigit digits
      split at h <;> cases h
      simp only [Option.elim_some, List.length_cons]
      split at hlength <;> simp [*] <;> omega
    · cases h
      simp
  · cases h
    simp

theorem length_numeral (n : Numeral) :
    (numeral n).length = (if n.negative then 1 else 0) + n.whole.length +
      n.fraction.elim 0 (·.length + 1) +
      n.exponent.elim 0 (fun e => e.2.length + (if e.1 then 2 else 1)) := by
  obtain ⟨negative, whole, fraction, exponent⟩ := n
  cases negative <;> cases fraction <;> rcases exponent with _ | ⟨_ | _, _⟩ <;>
    simp [numeral] <;> omega

theorem length_numeral_le {cs rest : List Char} {n : Numeral} (h : Numeral.scan cs = some (n, rest)) :
    (numeral n).length + rest.length ≤ cs.length := by
  unfold Numeral.scan at h
  split at h
  next negative unsigned hsign =>
  have hunsigned : (if negative then 1 else 0) + unsigned.length = cs.length := by
    split at hsign <;> cases hsign <;> simp [Nat.add_comm]
  simp only [Option.bind_eq_bind, Option.bind_eq_some_iff] at h
  obtain ⟨⟨whole, afterWhole⟩, hwhole, ⟨fraction, afterFraction⟩, hfraction, ⟨exponent, after⟩,
    hexponent, heq⟩ := h
  obtain ⟨rfl, rfl⟩ := Prod.mk.inj (Option.some.inj heq)
  have hwhole := length_whole_add hwhole
  have hfraction := length_fraction_add hfraction
  have hexponent := length_exponent_add_le hexponent
  rw [length_numeral]
  dsimp only at hfraction hexponent ⊢
  omega

theorem pays_scalar : Pays scalar := by
  intro cs rest v h
  unfold scalar at h
  split at h
  · cases h
    simp only [chars, List.length_cons, List.length_nil]
    omega
  · cases h
    simp only [chars, List.length_cons, List.length_nil]
    omega
  · cases h
    simp only [chars, List.length_cons, List.length_nil]
    omega
  · next cs =>
    obtain ⟨⟨text, rest'⟩, hstring, heq⟩ := Option.map_eq_some_iff.mp h
    obtain ⟨rfl, rfl⟩ := Prod.mk.inj heq
    exact length_quoted_le hstring
  · split at h
    · cases h
    · next n rest' hscan =>
      split at h <;> cases h
      exact length_numeral_le hscan

/-! ### Arrays and objects -/

theorem itemChars_eq (vs : List Json) : itemChars vs = vs.flatMap fun v => ',' :: v.chars := by
  induction vs with
  | nil => rfl
  | cons v vs ih => rw [itemChars, ih, List.flatMap_cons, List.cons_append]

theorem memberChars_eq (ms : List (String × Json)) :
    memberChars ms = ms.flatMap fun m => ',' :: (quoted m.1 ++ ':' :: m.2.chars) := by
  induction ms with
  | nil => rfl
  | cons m ms ih =>
    rw [memberChars, ih, List.flatMap_cons]
    simp

/-- The brackets of an array take the place of one comma more than it has. -/
theorem length_chars_arr {vs : List Json} (h : vs ≠ []) :
    (chars (.arr vs)).length = (itemChars vs).length + 1 := by
  cases vs with
  | nil => contradiction
  | cons v vs =>
    simp only [chars, itemChars, List.length_cons, List.length_append, List.length_nil]

theorem length_chars_obj {ms : List (String × Json)} (h : ms ≠ []) :
    (chars (.obj ms)).length = (memberChars ms).length + 1 := by
  cases ms with
  | nil => contradiction
  | cons m ms =>
    simp only [chars, memberChars, List.length_cons, List.length_append, List.length_nil]

/-- What has been read of an array, each item with its comma, and what is left are together
no longer than the text. -/
theorem length_items_le {next : List Char → Option (Json × List Char)} (hnext : Pays next)
    {done vs : List Json} {size : Nat} {cs rest : List Char}
    (h : items next done size cs = some (vs, rest)) :
    vs ≠ [] ∧ (itemChars vs).length + rest.length ≤ (itemChars done).length + cs.length := by
  have hitem {cs afterItem after : List Char} {item : Json} {c : Char} (done : List Json)
      (hnext' : next (skipBlanks cs) = some (item, afterItem))
      (hafter : skipBlanks afterItem = c :: after) :
      (itemChars (item :: done)).length + after.length ≤ (itemChars done).length + cs.length := by
    have := hnext hnext'
    have := length_skipBlanks_le cs
    have := length_lt_of_skipBlanks hafter
    simp only [itemChars, List.length_cons, List.length_append]
    omega
  fun_induction items next done size cs with
  | case3 done size cs item afterItem hnext' after hafter ih =>
    exact ⟨(ih h).1, Nat.le_trans (ih h).2 (hitem done hnext' hafter)⟩
  | case4 done size cs item afterItem hnext' after hafter =>
    obtain ⟨rfl, rfl⟩ := Prod.mk.inj (Option.some.inj h)
    refine ⟨by simp, ?_⟩
    rw [itemChars_eq, ((List.reverse_perm _).flatMap_right _).length_eq, ← itemChars_eq]
    exact hitem done hnext' hafter
  | _ => cases h

theorem length_members_le {next : List Char → Option (Json × List Char)} (hnext : Pays next)
    {done ms : List (String × Json)} {size : Nat} {cs rest : List Char}
    (h : members next done size cs = some (ms, rest)) :
    ms ≠ [] ∧ (memberChars ms).length + rest.length ≤ (memberChars done).length + cs.length := by
  have hmember {cs afterQuote afterKey afterColon afterItem after : List Char} {key : String}
      {item : Json} {c : Char} (done : List (String × Json))
      (hquote : skipBlanks cs = '"' :: afterQuote) (hkey : string afterQuote = some (key, afterKey))
      (hcolon : skipBlanks afterKey = ':' :: afterColon)
      (hnext' : next (skipBlanks afterColon) = some (item, afterItem))
      (hafter : skipBlanks afterItem = c :: after) :
      (memberChars ((key, item) :: done)).length + after.length ≤
        (memberChars done).length + cs.length := by
    have := length_lt_of_skipBlanks hquote
    have := length_quoted_le hkey
    have := length_lt_of_skipBlanks hcolon
    have := hnext hnext'
    have := length_skipBlanks_le afterColon
    have := length_lt_of_skipBlanks hafter
    simp only [memberChars, List.length_cons, List.length_append]
    omega
  fun_induction members next done size cs with
  | case4 done size cs _ hquote key _ hkey _ hcolon item _ hnext' after hafter ih =>
    exact ⟨(ih h).1, Nat.le_trans (ih h).2 (hmember done hquote hkey hcolon hnext' hafter)⟩
  | case5 done size cs _ hquote key _ hkey _ hcolon item _ hnext' after hafter =>
    obtain ⟨rfl, rfl⟩ := Prod.mk.inj (Option.some.inj h)
    refine ⟨by simp, ?_⟩
    rw [memberChars_eq, ((List.reverse_perm _).flatMap_right _).length_eq, ← memberChars_eq]
    exact hmember done hquote hkey hcolon hnext' hafter
  | _ => cases h

theorem pays_value (size depth : Nat) : Pays (value size depth) := by
  induction depth with
  | zero => exact pays_scalar
  | succ depth ih =>
    intro cs rest v h
    unfold value at h
    split at h
    · exact pays_scalar h
    · next depth' cs heq =>
      obtain rfl := Nat.succ.inj heq
      split at h
      · next after hafter =>
        cases h
        have := length_lt_of_skipBlanks hafter
        simp only [chars, List.length_cons, List.length_nil]
        omega
      · obtain ⟨⟨vs, rest'⟩, hvs, heq⟩ := Option.map_eq_some_iff.mp h
        obtain ⟨rfl, rfl⟩ := Prod.mk.inj heq
        obtain ⟨hne, hle⟩ := length_items_le ih hvs
        have := length_skipBlanks_le cs
        rw [length_chars_arr hne, List.length_cons]
        simp only [itemChars, List.length_nil] at hle
        omega
    · next depth' cs heq =>
      obtain rfl := Nat.succ.inj heq
      split at h
      · next after hafter =>
        cases h
        have := length_lt_of_skipBlanks hafter
        simp only [chars, List.length_cons, List.length_nil]
        omega
      · obtain ⟨⟨ms, rest'⟩, hms, heq⟩ := Option.map_eq_some_iff.mp h
        obtain ⟨rfl, rfl⟩ := Prod.mk.inj heq
        obtain ⟨hne, hle⟩ := length_members_le ih hms
        have := length_skipBlanks_le cs
        rw [length_chars_obj hne, List.length_cons]
        simp only [memberChars, List.length_nil] at hle
        omega
    · exact pays_scalar h

/-! ### Documents -/

/-- **What is printed for a value is no longer than any text that is read as it.** -/
theorem length_render_le {depth : Nat} {text : String} {v : Json} (h : ofText? depth text = some v) :
    v.render.length ≤ text.length := by
  simp only [ofText?] at h
  split at h
  · next w rest hvalue =>
    split at h <;> cases h
    have := pays_value _ _ hvalue
    have := length_skipBlanks_le text.toList
    rw [String.length_toList] at this
    rw [render, String.length_ofList]
    omega
  · cases h

/-- No character takes less than a byte. -/
theorem length_le_utf8ByteSize (s : String) : s.length ≤ s.utf8ByteSize := by
  have hlist (cs : List Char) : cs.length ≤ (String.ofList cs).utf8ByteSize := by
    induction cs with
    | nil => exact Nat.zero_le _
    | cons c cs ih =>
      have := c.utf8Size_pos
      rw [String.ofList_cons, String.utf8ByteSize_append, String.utf8ByteSize_singleton,
        List.length_cons]
      omega
  rw [← String.length_toList, ← String.ofList_toList (s := s), String.toList_ofList]
  exact hlist s.toList

theorem length_chars_le_size {body : ByteArray} {v : Json} (h : ofBytes? body = some v) :
    v.chars.length ≤ body.size := by
  obtain ⟨text, htext, hv⟩ := Option.bind_eq_some_iff.mp h
  have hle := length_render_le hv
  have hsize : text.utf8ByteSize = body.size := by
    unfold String.fromUTF8? at htext
    split at htext <;> cases htext
    rfl
  rw [render, String.length_ofList] at hle
  exact hsize ▸ Nat.le_trans hle (length_le_utf8ByteSize text)

end ScriptGate.Json
