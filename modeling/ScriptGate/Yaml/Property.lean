import ScriptGate.Text.Characters
import ScriptGate.Yaml.Glyph

/-! Anchors, tags and directives.

A tag is written as a handle and a suffix; a `%TAG` directive says what text a
handle stands for. A percent sign in a tag introduces an octet of UTF-8, so tags
are lists of octets. An octet of zero ends the text it stands in: what is written
behind it is read and dropped (`beforeZero`). -/
namespace ScriptGate.Yaml

/-- The text of a tag: its octets, a character of the text being one of them unless it
is written with percent signs. -/
abbrev TagText := List Char

/-- A tag as it is written. -/
structure TagName where
  handle : TagText
  suffix : TagText
  deriving DecidableEq, Repr

inductive Directive where
  | version (major minor : Nat)
  | tag (handle stem : TagText)
  deriving DecidableEq, Repr

/-! ### Anchors -/

/-- The name behind `&` or `*`. -/
def anchorName (gs : List Glyph) : Option (String × List Glyph) :=
  let name := chars (gs.takeWhile fun g => isNameChar g.char)
  let gs := gs.dropWhile fun g => isNameChar g.char
  let c := ahead gs 0
  if name.isEmpty then none
  else if isGap c || c ∈ ['?', ':', ',', ']', '}', '%', '@', '\x60'] then
    some (String.ofList name, gs)
  else none

/-! ### Tags -/

/-- The handle a text is at: `!`, `!!` or `!name!`. Without a closing `!` it is only the
start of a tag. -/
def tagHandle (gs : List Glyph) : Option (TagText × List Glyph) :=
  if ahead gs 0 ≠ '!' then none
  else
    let name := chars ((gs.drop 1).takeWhile fun g => isNameChar g.char)
    let gs := (gs.drop 1).dropWhile fun g => isNameChar g.char
    if ahead gs 0 = '!' then some ('!' :: (name ++ ['!']), gs.drop 1)
    else some ('!' :: name, gs)

def isUriChar (c : Char) : Bool :=
  isNameChar c || c ∈ [';', '/', '?', ':', '@', '&', '=', '+', '$', '.', '!', '~', '*', '\'', '(',
    ')', '%']

/-- The octets that follow the first octet of a character in UTF-8, if it is one. -/
def trailingOctets (octet : Nat) : Option Nat :=
  if octet < 0x80 then some 0
  else if octet / 0x20 = 6 then some 1
  else if octet / 0x10 = 14 then some 2
  else if octet / 0x08 = 30 then some 3
  else none

/-- An octet written as a percent sign and two digits. -/
def escapedOctet (gs : List Glyph) : Option Nat := do
  if ahead gs 0 ≠ '%' then none
  else return (← Text.hexValue (ahead gs 1)) * 16 + (← Text.hexValue (ahead gs 2))

/-- The characters of a tag; `owed` octets of a character are still to come. The flow
indicators `,`, `[` and `]` belong to it only where `verbatim` says so. -/
def tagUri (verbatim : Bool) : (size : Nat) → (done : TagText) → (owed : Nat) → List Glyph →
    Option (TagText × List Glyph)
  | 0, _, _, _ => none
  | size + 1, done, owed, gs =>
    let c := ahead gs 0
    if owed = 0 && !(isUriChar c || (verbatim && c ∈ [',', '[', ']'])) then
      some (done.reverse, gs)
    else if owed = 0 && c ≠ '%' then tagUri verbatim size (c :: done) 0 (gs.drop 1)
    else
      match escapedOctet gs with
      | none => none
      | some octet =>
        let done := Char.ofNat octet :: done
        if owed = 0 then
          match trailingOctets octet with
          | none => none
          | some owed => tagUri verbatim size done owed (gs.drop 3)
        else if octet / 0x40 = 2 then tagUri verbatim size done (owed - 1) (gs.drop 3)
        else none

/-- The text up to an octet of zero. -/
def beforeZero (text : TagText) : TagText := text.takeWhile fun c => c ≠ '\x00'

/-- The tag a text is at: `!<uri>`, a handle and a suffix, or `!suffix`. No tag has as many
characters as `size`. -/
def tagName (size : Nat) (flow : Bool) (gs : List Glyph) : Option (TagName × List Glyph) := do
  let (name, gs) ←
    if ahead gs 1 = '<' then do
      let (uri, gs) ← tagUri true size [] 0 (gs.drop 2)
      if uri.isEmpty || ahead gs 0 ≠ '>' then none
      else some (⟨[], beforeZero uri⟩, gs.drop 1)
    else do
      let (handle, gs) ← tagHandle gs
      if 1 < handle.length && handle.getLast? = some '!' then
        let (suffix, gs) ← tagUri false size [] 0 gs
        if suffix.isEmpty then none else some (⟨handle, beforeZero suffix⟩, gs)
      else
        let (suffix, gs) ← tagUri false size (handle.drop 1).reverse 0 gs
        let suffix := beforeZero suffix
        some (if suffix.isEmpty then ⟨[], ['!']⟩ else ⟨['!'], suffix⟩, gs)
  if isGap (ahead gs 0) || (flow && ahead gs 0 = ',') then some (name, gs) else none

/-! ### Directives -/

def skipBlanks (gs : List Glyph) : List Glyph := gs.dropWhile fun g => isBlank g.char

/-- A number of a version: at most nine digits. -/
def versionNumber (gs : List Glyph) : Option (Nat × List Glyph) :=
  let digits := chars (gs.takeWhile fun g => g.char.isDigit)
  if digits.isEmpty || 9 < digits.length then none
  else some (digits.foldl (fun n c => 10 * n + (c.toNat - '0'.toNat)) 0,
    gs.dropWhile fun g => g.char.isDigit)

def versionDirective (gs : List Glyph) : Option (Directive × List Glyph) := do
  let (major, gs) ← versionNumber (skipBlanks gs)
  if ahead gs 0 ≠ '.' then none
  else
    let (minor, gs) ← versionNumber (gs.drop 1)
    return (.version major minor, gs)

def tagDirective (size : Nat) (gs : List Glyph) : Option (Directive × List Glyph) := do
  let (handle, gs) ← tagHandle (skipBlanks gs)
  if handle ≠ ['!'] && handle.getLast? ≠ some '!' then none
  else if !isBlank (ahead gs 0) then none
  else
    let (stem, gs) ← tagUri true size [] 0 (skipBlanks gs)
    if stem.isEmpty || !isGap (ahead gs 0) then none
    else return (.tag handle (beforeZero stem), gs)

/-- The directive behind a percent sign. -/
def directive (size : Nat) (gs : List Glyph) : Option (Directive × List Glyph) :=
  let name := chars (gs.takeWhile fun g => isNameChar g.char)
  let gs := gs.dropWhile fun g => isNameChar g.char
  if !isGap (ahead gs 0) then none
  else if name = ['Y', 'A', 'M', 'L'] then versionDirective gs
  else if name = ['T', 'A', 'G'] then tagDirective size gs
  else none

end ScriptGate.Yaml
