import ScriptGate.Yaml.Property
import ScriptGate.Yaml.Scalar

/-! The tokens of a YAML text.

Where a line is indented further than the block around it, a block starts; where it
is indented less, blocks end (`Scanner.closeBlocks`). That a word is the key of a
mapping shows only at the colon behind it, so the scanner remembers where the last
possible key stood (`Candidate`) and puts the tokens that announce it in front of it
then (`Scanner.announce`). Such a key stays on its line and within 1024 characters. -/
namespace ScriptGate.Yaml

inductive Token where
  | directive (d : Directive)
  | documentStart
  | documentEnd
  | blockSequenceStart
  | blockMappingStart
  | blockEnd
  | flowSequenceStart
  | flowSequenceEnd
  | flowMappingStart
  | flowMappingEnd
  | blockEntry
  | flowEntry
  | key
  | value
  | alias (name : String)
  | anchor (name : String)
  | tag (name : TagName)
  | scalar (s : Scalar)
  deriving DecidableEq, Repr

/-- A place where a mapping's key may have started. -/
structure Candidate where
  start : Glyph
  /-- How many tokens stand before it. -/
  position : Nat
  /-- Without a colon the text is ill-formed: nothing but a key can stand there. -/
  required : Bool

structure Scanner where
  /-- The tokens so far, last first, and their number. -/
  tokens : List Token := []
  count : Nat := 0
  /-- The column of the current block, and those of the blocks around it. -/
  indent : Int := -1
  outer : List Int := []
  /-- The candidate at the current level, and those of the levels around it: a level
  for each flow collection that is open. -/
  candidate : Option Candidate := none
  suspended : List (Option Candidate) := []
  keyAllowed : Bool := true

namespace Scanner

/-- Inside a flow collection. -/
def inFlow (s : Scanner) : Bool := !s.suspended.isEmpty

def emit (s : Scanner) (t : Token) : Scanner :=
  { s with tokens := t :: s.tokens, count := s.count + 1 }

/-- Put a token behind the first `position` ones. -/
def insert (s : Scanner) (position : Nat) (t : Token) : Scanner :=
  let behind := s.count - position
  { s with tokens := s.tokens.take behind ++ t :: s.tokens.drop behind, count := s.count + 1 }

def allowKey (s : Scanner) (allowed : Bool) : Scanner := { s with keyAllowed := allowed }

/-! ### Candidates for keys -/

/-- Give the candidate up. -/
def dropCandidate (s : Scanner) : Option Scanner :=
  match s.candidate with
  | none => some s
  | some c => if c.required then none else some { s with candidate := none }

/-- A key may start here. -/
def saveCandidate (s : Scanner) (place : Glyph) : Option Scanner :=
  if s.keyAllowed then
    s.dropCandidate.map fun s =>
      { s with candidate := some ⟨place, s.count, !s.inFlow && s.indent = place.column⟩ }
  else some s

/-- The candidate if it still is one at the given place. -/
def current (place : Glyph) : Option Candidate → Option (Option Candidate)
  | none => some none
  | some c =>
    if c.start.line < place.line || c.start.index + 1024 < place.index then
      if c.required then none else some none
    else some (some c)

/-- Give up the candidates that are too far back. -/
def dropStale (s : Scanner) (place : Glyph) : Option Scanner := do
  let candidate ← current place s.candidate
  let suspended ← s.suspended.mapM (current place)
  return { s with candidate, suspended }

/-! ### Blocks -/

/-- The blocks indented further than a column: how many, and what is left. -/
def deeper (column : Int) (indent : Int) : List Int → Nat × Int × List Int
  | [] => (0, indent, [])
  | next :: rest =>
    if column < indent then
      let (n, indent, outer) := deeper column next rest
      (n + 1, indent, outer)
    else (0, indent, next :: rest)

/-- End the blocks indented further than a column. -/
def closeBlocks (s : Scanner) (column : Int) : Scanner :=
  if s.inFlow then s
  else
    let (n, indent, outer) := deeper column s.indent s.outer
    { s with tokens := List.replicate n .blockEnd ++ s.tokens, count := s.count + n, indent, outer }

/-- Start a block at a column, in front of the token at a position, unless one is there
already. -/
def openBlock (s : Scanner) (column : Int) (position : Nat) (start : Token) : Scanner :=
  if s.inFlow || column ≤ s.indent then s
  else { s.insert position start with indent := column, outer := s.indent :: s.outer }

/-- Announce the candidate as a key. -/
def announce (s : Scanner) (c : Candidate) : Scanner :=
  let s := (s.insert c.position .key).openBlock c.start.column c.position .blockMappingStart
  { s with candidate := none, keyAllowed := false }

/-! ### One token -/

/-- Between documents: all blocks end and no key is pending. -/
def leaveDocument (s : Scanner) : Option Scanner :=
  (s.closeBlocks (-1)).dropCandidate.map (allowKey · false)

/-- `[` or `{`. -/
def openFlow (s : Scanner) (place : Glyph) (start : Token) : Option Scanner :=
  (s.saveCandidate place).map fun s =>
    { s.emit start with
      candidate := none, suspended := s.candidate :: s.suspended, keyAllowed := true }

/-- `]` or `}`. -/
def closeFlow (s : Scanner) (stop : Token) : Option Scanner :=
  s.dropCandidate.map fun s =>
    let s := match s.suspended with
      | [] => s
      | c :: rest => { s with candidate := c, suspended := rest }
    (s.emit stop).allowKey false

/-- `,` in a flow collection. -/
def flowEntry (s : Scanner) : Option Scanner :=
  s.dropCandidate.map fun s => (s.emit .flowEntry).allowKey true

/-- `-` in front of an entry. -/
def blockEntry (s : Scanner) (place : Glyph) : Option Scanner :=
  if !s.inFlow && !s.keyAllowed then none
  else
    (s.openBlock place.column s.count .blockSequenceStart).dropCandidate.map fun s =>
      (s.emit .blockEntry).allowKey true

/-- `?` in front of a key. -/
def explicitKey (s : Scanner) (place : Glyph) : Option Scanner :=
  if !s.inFlow && !s.keyAllowed then none
  else
    (s.openBlock place.column s.count .blockMappingStart).dropCandidate.map fun s =>
      (s.emit .key).allowKey !s.inFlow

/-- `:` in front of a value. -/
def mappingValue (s : Scanner) (place : Glyph) : Option Scanner :=
  match s.candidate with
  | some c => some ((s.announce c).emit .value)
  | none =>
    if !s.inFlow && !s.keyAllowed then none
    else
      let s := s.openBlock place.column s.count .blockMappingStart
      some ((s.emit .value).allowKey !s.inFlow)

/-- A token that may itself be a key. -/
def keyed (s : Scanner) (place : Glyph) (t : Token) : Option Scanner :=
  (s.saveCandidate place).map fun s => (s.emit t).allowKey false

/-- A character that cannot start a plain scalar, or only in front of a word. -/
def isIndicator (c : Char) : Bool :=
  c ∈ ['-', '?', ':', ',', '[', ']', '{', '}', '#', '&', '*', '!', '|', '>', '\'', '"', '%', '@', '\x60']

/-- A plain scalar starts here. -/
def startsPlain (s : Scanner) (gs : List Glyph) : Bool :=
  let c := ahead gs 0
  let next := ahead gs 1
  (!isGap c && !isIndicator c) || (c = '-' && !isBlank next) ||
    (!s.inFlow && (c = '?' || c = ':') && !isGap next)

/-- The token a text is at, which is not at its end; `size` is more than the glyphs that
are left. -/
def token (size : Nat) (s : Scanner) (gs : List Glyph) : Option (Scanner × List Glyph) :=
  let place := here gs
  let c := place.char
  let gapNext := isGap (ahead gs 1)
  let rest := gs.drop 1
  if place.column = 0 && c = '%' then do
    let s ← s.leaveDocument
    let (d, gs) ← directive size rest
    return (s.emit (.directive d), ← restOfLine gs)
  else if isMarker '-' gs then s.leaveDocument.map fun s => (s.emit .documentStart, gs.drop 3)
  else if isMarker '.' gs then s.leaveDocument.map fun s => (s.emit .documentEnd, gs.drop 3)
  else if c = '[' then (s.openFlow place .flowSequenceStart).map (·, rest)
  else if c = '{' then (s.openFlow place .flowMappingStart).map (·, rest)
  else if c = ']' then (s.closeFlow .flowSequenceEnd).map (·, rest)
  else if c = '}' then (s.closeFlow .flowMappingEnd).map (·, rest)
  else if c = ',' then s.flowEntry.map (·, rest)
  else if c = '-' && gapNext then (s.blockEntry place).map (·, rest)
  else if c = '?' && (s.inFlow || gapNext) then (s.explicitKey place).map (·, rest)
  else if c = ':' && (s.inFlow || gapNext) then (s.mappingValue place).map (·, rest)
  else if c = '*' then do
    let (name, gs) ← anchorName rest
    return (← s.keyed place (.alias name), gs)
  else if c = '&' then do
    let (name, gs) ← anchorName rest
    return (← s.keyed place (.anchor name), gs)
  else if c = '!' then do
    let (name, gs) ← tagName size s.inFlow gs
    return (← s.keyed place (.tag name), gs)
  else if (c = '|' || c = '>') && !s.inFlow then do
    let s ← s.dropCandidate
    let (scalar, gs) ← block size (c = '>') s.indent rest
    return ((s.emit (.scalar scalar)).allowKey true, gs)
  else if c = '\'' || c = '"' then do
    let (scalar, gs) ← quoted size c rest
    return (← s.keyed place (.scalar scalar), gs)
  else if s.startsPlain gs then do
    let (scalar, broken, gs) ← plain size s.inFlow (s.indent + 1) gs
    let s ← s.keyed place (.scalar scalar)
    return (if broken then s.allowKey true else s, gs)
  else none

/-! ### The whole text -/

/-- The text from its next token on, and whether a key may start there: blanks, comments
and line breaks are passed over. In a block a tab is no indentation, but a line break
makes way for a key. -/
def skip (flow : Bool) (comment keyAllowed : Bool) : List Glyph → Bool × List Glyph
  | [] => (keyAllowed, [])
  | g :: gs =>
    if isBreak g.char then skip flow false (keyAllowed || !flow) gs
    else if g.char = endMark then (keyAllowed, g :: gs)
    else if comment || g.char = '#' then skip flow true keyAllowed gs
    else if g.char = ' ' || (g.char = '\t' && (flow || !keyAllowed)) ||
        (g.char = byteOrderMark && g.column = 0) then skip flow false keyAllowed gs
    else (keyAllowed, g :: gs)

/-- The tokens from here to the end of the text. -/
def tokensFrom : (size : Nat) → Scanner → List Glyph → Option (List Token)
  | 0, _, _ => none
  | size + 1, s, gs => do
    let (keyAllowed, gs) := skip s.inFlow false s.keyAllowed gs
    let s ← (s.allowKey keyAllowed).dropStale (here gs)
    let s := s.closeBlocks (here gs).column
    if ahead gs 0 = endMark then
      let s ← s.leaveDocument
      return s.tokens.reverse
    else
      let (s, gs) ← token (size + 1) s gs
      tokensFrom size s gs

end Scanner

/-- The tokens of a text. -/
def tokens? (text : String) : Option (List Token) := do
  let gs ← glyphs? text
  Scanner.tokensFrom (gs.length + 1) {} gs

end ScriptGate.Yaml
