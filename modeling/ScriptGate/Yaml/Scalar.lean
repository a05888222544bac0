import ScriptGate.Text.Characters
import ScriptGate.Yaml.Glyph

/-! Scalars and how they are read from a text.

Between the words of a plain or quoted scalar a line break is folded: one break
becomes a space, several lose the first (`Gap.text`). A block scalar keeps its
lines (`|`) or folds them (`>`), and an indicator in its header says what becomes
of the breaks at its end. Each reader gives the scalar's text and what follows it,
or `none` where the text is not YAML. What was read so far (`done`) is kept last
character first, and `size` is more than the glyphs that are left. -/
namespace ScriptGate.Yaml

inductive Style where
  | plain | single | double | literal | folded
  deriving DecidableEq, Repr

structure Scalar where
  style : Style
  text : String
  deriving DecidableEq, Repr

/-! ### Gaps between words -/

/-- The blanks and breaks between two words: the blanks before the first break, and
the breaks. -/
structure Gap where
  blanks : List Char := []
  breaks : List Char := []

namespace Gap

/-- What a gap reads as inside a scalar. -/
def text (g : Gap) : List Char :=
  match g.breaks with
  | [] => g.blanks
  | '\n' :: [] => [' ']
  | '\n' :: rest => rest
  | breaks => breaks

def isBroken (g : Gap) : Bool := !g.breaks.isEmpty

/-- The glyphs of the gap a text is at. -/
def run (gs : List Glyph) : List Glyph :=
  gs.takeWhile fun g => isBlank g.char || isBreak g.char

/-- The text behind the gap it is at. -/
def skip (gs : List Glyph) : List Glyph :=
  gs.dropWhile fun g => isBlank g.char || isBreak g.char

def ofRun (run : List Glyph) : Gap where
  blanks := chars (run.takeWhile fun g => isBlank g.char)
  breaks := chars (run.filter fun g => isBreak g.char)

end Gap

/-! ### Plain scalars -/

def isFlowIndicator (c : Char) : Bool := c = ',' || c = '[' || c = ']' || c = '{' || c = '}'

/-- The characters up to the end of a word of a plain scalar. Inside a flow collection
a colon right before an indicator is an error. -/
def plainWord (flow : Bool) (done : List Char) : List Glyph → Option (List Char × List Glyph)
  | [] => some (done.reverse, [])
  | g :: gs =>
    let next := ahead gs 0
    if isGap g.char then some (done.reverse, g :: gs)
    else if flow && g.char = ':' && (isFlowIndicator next || next = '?') then none
    else if (g.char = ':' && isGap next) || (flow && isFlowIndicator g.char) then
      some (done.reverse, g :: gs)
    else plainWord flow (g.char :: done) gs

/-- A tab that stands in for indentation on a further line of a scalar. -/
def tabbed (indent : Int) (run : List Glyph) : Bool :=
  (run.dropWhile fun g => !isBreak g.char).any fun g => g.char = '\t' && (g.column : Int) < indent

/-- A plain scalar from one of its words on: `done` was read before, then `gap`. Also
says whether the scalar's end was found at the start of a line. -/
def plainFrom (flow : Bool) (indent : Int) : (size : Nat) → (done : List Char) → (gap : Gap) →
    List Glyph → Option (List Char × Bool × List Glyph)
  | 0, _, _, _ => none
  | size + 1, done, gap, gs =>
    if isDocumentMarker gs || ahead gs 0 = '#' then some (done.reverse, gap.isBroken, gs)
    else
      match plainWord flow [] gs with
      | none => none
      | some ([], gs) => some (done.reverse, gap.isBroken, gs)
      | some (word, gs) =>
        let done := word.reverseAux (gap.text.reverseAux done)
        let run := Gap.run gs
        let gs := Gap.skip gs
        if run.isEmpty then some (done.reverse, false, gs)
        else if tabbed indent run then none
        else if !flow && ((here gs).column : Int) < indent then
          some (done.reverse, (Gap.ofRun run).isBroken, gs)
        else plainFrom flow indent size done (Gap.ofRun run) gs

/-- The plain scalar a text is at. `indent` is the least column of its further lines. -/
def plain (size : Nat) (flow : Bool) (indent : Int) (gs : List Glyph) :
    Option (Scalar × Bool × List Glyph) :=
  (plainFrom flow indent size [] {} gs).map fun (text, broken, gs) =>
    (⟨.plain, String.ofList text⟩, broken, gs)

/-! ### Quoted scalars -/

/-- The characters up to the end of a word between single quotes; a quote is written
twice. -/
def singleWord (done : List Char) : List Glyph → List Char × List Glyph
  | g :: g' :: gs =>
    if g.char = '\'' && g'.char = '\'' then singleWord ('\'' :: done) gs
    else if g.char = '\'' || isGap g.char then (done.reverse, g :: g' :: gs)
    else singleWord (g.char :: done) (g' :: gs)
  | gs => (done.reverse, gs)

/-- The character after a backslash, for the escapes of one character. -/
def shortEscape : Char → Option Char
  | '0' => some '\x00'
  | 'a' => some '\x07'
  | 'b' => some '\x08'
  | 't' | '\t' => some '\t'
  | 'n' => some '\n'
  | 'v' => some '\x0b'
  | 'f' => some '\x0c'
  | 'r' => some '\r'
  | 'e' => some '\x1b'
  | ' ' => some ' '
  | '"' => some '"'
  | '/' => some '/'
  | '\\' => some '\\'
  | 'N' => some '\x85'
  | '_' => some '\u00a0'
  | 'L' => some '\u2028'
  | 'P' => some '\u2029'
  | _ => none

/-- How many hexadecimal digits follow an escape of a code point. -/
def codeLength : Char → Option Nat
  | 'x' => some 2
  | 'u' => some 4
  | 'U' => some 8
  | _ => none

/-- The character whose code point is written in these hexadecimal digits. -/
def codePoint (digits : List Char) : Option Char := do
  let n ← digits.foldlM (fun n c => (Text.hexValue c).map (16 * n + ·)) 0
  if n.isValidChar then some (Char.ofNat n) else none

/-- The characters up to the end of a word between double quotes, and whether the word
ended at an escaped line break. -/
def doubleWord : (size : Nat) → (done : List Char) → List Glyph →
    Option (List Char × Bool × List Glyph)
  | 0, _, _ => none
  | _ + 1, done, [] => some (done.reverse, false, [])
  | size + 1, done, g :: gs =>
    if g.char = '"' || isGap g.char then some (done.reverse, false, g :: gs)
    else if g.char ≠ '\\' then doubleWord size (g.char :: done) gs
    else
      let next := ahead gs 0
      if isBreak next then some (done.reverse, true, gs.drop 1)
      else
        match shortEscape next, codeLength next with
        | some c, _ => doubleWord size (c :: done) (gs.drop 1)
        | none, some n =>
          let digits := chars ((gs.drop 1).take n)
          if digits.length = n then
            match codePoint digits with
            | some c => doubleWord size (c :: done) (gs.drop (1 + n))
            | none => none
          else none
        | none, none => none

/-- A quoted scalar from one of its words on, up to the closing quote. -/
def quotedFrom (quote : Char) : (size : Nat) → (done : List Char) → List Glyph →
    Option (List Char × List Glyph)
  | 0, _, _ => none
  | size + 1, done, gs => do
    if isDocumentMarker gs || ahead gs 0 = endMark then none
    else
      let (word, joined, gs) ←
        if quote = '"' then doubleWord (size + 1) [] gs
        else
          let (word, gs) := singleWord [] gs
          some (word, false, gs)
      let done := word.reverseAux done
      if ahead gs 0 = quote then some (done.reverse, gs.drop 1)
      else
        let gap := Gap.ofRun (Gap.run gs)
        -- Behind an escaped break nothing is left to fold: further breaks stand as they are.
        let between := if joined then gap.breaks else gap.text
        quotedFrom quote size (between.reverseAux done) (Gap.skip gs)

/-- The scalar behind an opening quote. -/
def quoted (size : Nat) (quote : Char) (gs : List Glyph) : Option (Scalar × List Glyph) :=
  (quotedFrom quote size [] gs).map fun (text, gs) =>
    (⟨if quote = '"' then .double else .single, String.ofList text⟩, gs)

/-! ### Block scalars -/

/-- What becomes of the line breaks at the end of a block scalar. -/
inductive Chomping where
  | clip | strip | keep
  deriving DecidableEq

def chomping? : Char → Option Chomping
  | '+' => some .keep
  | '-' => some .strip
  | _ => none

/-- The indicators behind `|` or `>`, in either order: chomping, and by how many columns
the scalar is indented. -/
def blockHeader (gs : List Glyph) : Option (Chomping × Option Nat × List Glyph) :=
  let indentation (gs : List Glyph) : Option (Option Nat × List Glyph) :=
    let c := ahead gs 0
    if !c.isDigit then some (none, gs)
    else if c = '0' then none
    else some (some (c.toNat - '0'.toNat), gs.drop 1)
  match chomping? (ahead gs 0) with
  | some chomping => (indentation (gs.drop 1)).map fun (n, gs) => (chomping, n, gs)
  | none =>
    match indentation gs with
    | none => none
    | some (none, gs) => some (.clip, none, gs)
    | some (some n, gs) =>
      match chomping? (ahead gs 0) with
      | some chomping => some (chomping, some n, gs.drop 1)
      | none => some (.clip, some n, gs)

/-- The text behind the blanks and the comment that may end a line, which must then
end. The break is dropped too. -/
def restOfLine (gs : List Glyph) : Option (List Glyph) :=
  let gs := gs.dropWhile fun g => isBlank g.char
  let gs := if ahead gs 0 = '#' then gs.dropWhile fun g => !isBreakOrEnd g.char else gs
  if isBreak (ahead gs 0) then some (gs.drop 1)
  else if ahead gs 0 = endMark then some gs
  else none

/-- The empty lines a text is at, the indentation of the line that follows included: the
breaks, and the deepest column reached. Where the indentation is not yet known
(`none`) all spaces belong to it. A tab cannot stand in it. -/
def emptyLines (indent : Option Nat) (breaks : List Char) (deepest : Nat) :
    List Glyph → Option (List Char × Nat × List Glyph)
  | [] => some (breaks.reverse, deepest, [])
  | g :: gs =>
    let inside := match indent with
      | none => true
      | some n => g.column < n
    if inside && g.char = ' ' then emptyLines indent breaks deepest gs
    else if inside && g.char = '\t' then none
    else if isBreak g.char then emptyLines indent (g.char :: breaks) (max deepest g.column) gs
    else some (breaks.reverse, max deepest g.column, g :: gs)

/-- The lines of a block scalar: `done` was read before, `last` is the break that ended
it, `breaks` those of the empty lines since, and `blank` tells whether the line before
started with a blank. Gives the text, the last break and the breaks behind it. -/
def blockLines (folded : Bool) (indent : Nat) : (size : Nat) → (done last breaks : List Char) →
    (blank : Bool) → List Glyph → Option (List Char × List Char × List Char × List Glyph)
  | 0, _, _, _, _, _ => none
  | size + 1, done, last, breaks, blank, gs =>
    if (here gs).column ≠ indent || ahead gs 0 = endMark then
      some (done.reverse, last, breaks, gs)
    else
      let startsBlank := isBlank (ahead gs 0)
      let joint :=
        if folded && last = ['\n'] && !blank && !startsBlank then
          if breaks.isEmpty then [' '] else breaks
        else last ++ breaks
      let line := chars (gs.takeWhile fun g => !isBreakOrEnd g.char)
      let gs := gs.dropWhile fun g => !isBreakOrEnd g.char
      let (last, gs) := if isBreak (ahead gs 0) then ([ahead gs 0], gs.drop 1) else ([], gs)
      match emptyLines (some indent) [] 0 gs with
      | none => none
      | some (breaks, _, gs) =>
        blockLines folded indent size (line.reverseAux (joint.reverseAux done)) last breaks
          startsBlank gs

/-- The block scalar behind its `|` or `>`, in a block indented by `outer`. -/
def block (size : Nat) (folded : Bool) (outer : Int) (gs : List Glyph) :
    Option (Scalar × List Glyph) := do
  let (chomping, increment, gs) ← blockHeader gs
  let gs ← restOfLine gs
  let indent := increment.map fun n => (max outer 0).toNat + n
  let (breaks, deepest, gs) ← emptyLines indent [] 0 gs
  let indent := indent.getD (max deepest (max (outer + 1) 1).toNat)
  let (done, last, breaks, gs) ← blockLines folded indent size [] [] breaks false gs
  let tail := match chomping with
    | .strip => []
    | .clip => last
    | .keep => last ++ breaks
  return (⟨if folded then .folded else .literal, String.ofList (done ++ tail)⟩, gs)

end ScriptGate.Yaml
