/-! The characters of a YAML text, each with its place.

Indentation, the ends of lines and the distance between two places decide what a
YAML text means, so every character carries its line and column from the start.
A line break in any of its spellings becomes one glyph, and a last glyph that no
text contains marks the end. -/
namespace ScriptGate.Yaml

/-- A character and where it stands, counted from zero. -/
structure Glyph where
  char : Char
  index : Nat
  line : Nat
  column : Nat
  deriving DecidableEq, Repr

/-- The mark behind the last character of a text. -/
def endMark : Char := '\x00'

/-- The characters a text may contain: tabs, line breaks and what can be printed. -/
def isAdmitted (c : Char) : Bool :=
  let n := c.toNat
  n = 0x09 || n = 0x0A || n = 0x0D || (0x20 ≤ n && n ≤ 0x7E) || n = 0x85 ||
  (0xA0 ≤ n && n ≤ 0xFFFD) || 0x10000 ≤ n

/-- The line breaks that stay distinct; all others are read as a line feed. -/
def isSeparator (c : Char) : Bool := c = '\u2028' || c = '\u2029'

/-- The glyphs of a text that starts at the given place, behind those already placed
(`done`, last first). -/
def place (done : List Glyph) (index line column : Nat) : List Char → List Glyph
  | [] => (⟨endMark, index, line, column⟩ :: done).reverse
  | '\r' :: '\n' :: rest =>
    place (⟨'\n', index, line, column⟩ :: done) (index + 2) (line + 1) 0 rest
  | c :: rest =>
    if c = '\n' || c = '\r' || c = '\x85' then
      place (⟨'\n', index, line, column⟩ :: done) (index + 1) (line + 1) 0 rest
    else if isSeparator c then
      place (⟨c, index, line, column⟩ :: done) (index + 1) (line + 1) 0 rest
    else
      place (⟨c, index, line, column⟩ :: done) (index + 1) line (column + 1) rest

/-- A mark of the order of bytes. It may stand in front of a line, and takes up a column
there. -/
def byteOrderMark : Char := '\ufeff'

/-- The glyphs of a text, if all its characters are admitted. -/
def glyphs? (text : String) : Option (List Glyph) :=
  let cs := text.toList
  if cs.all isAdmitted then some (place [] 0 0 0 cs) else none

/-! ### Looking at what comes next -/

def isBlank (c : Char) : Bool := c = ' ' || c = '\t'

def isBreak (c : Char) : Bool := c = '\n' || isSeparator c

def isBreakOrEnd (c : Char) : Bool := isBreak c || c = endMark

/-- A character at which every word ends. -/
def isGap (c : Char) : Bool := isBlank c || isBreakOrEnd c

/-- A character of a name: of an anchor, a directive or a tag's handle. -/
def isNameChar (c : Char) : Bool := c.isAlphanum || c = '_' || c = '-'

/-- The glyph a text is at. -/
def here (gs : List Glyph) : Glyph := gs.headD ⟨endMark, 0, 0, 0⟩

/-- The character `k` glyphs ahead. -/
def ahead (gs : List Glyph) (k : Nat) : Char := (gs[k]?.map Glyph.char).getD endMark

def chars (gs : List Glyph) : List Char := gs.map Glyph.char

/-- At the start of a line, three of this character and then a gap. -/
def isMarker (c : Char) (gs : List Glyph) : Bool :=
  (here gs).column = 0 && ahead gs 0 = c && ahead gs 1 = c && ahead gs 2 = c && isGap (ahead gs 3)

/-- The markers `---` and `...` between documents. -/
def isDocumentMarker (gs : List Glyph) : Bool := isMarker '-' gs || isMarker '.' gs

end ScriptGate.Yaml
