import ScriptGate.Json.Numeral
import ScriptGate.Text.Characters

/-! Reading a JSON document.

The grammar is strict: one value, the four blanks and nothing else around it, no
control character and no half of a surrogate pair in a string, no number out of
range. Arrays and objects nest at most as deep as the reader is told (`value`),
and that bound is what its recursion descends on. `none` is every kind of
failure. -/
namespace ScriptGate.Json
open Text (hexValue)

def isBlank (c : Char) : Bool := c = ' ' || c = '\t' || c = '\n' || c = '\r'

def skipBlanks (cs : List Char) : List Char := cs.dropWhile isBlank

/-! ### Strings -/

/-- The number four hexadecimal digits denote. -/
def codeUnit (a b c d : Char) : Option Nat := do
  return ((← hexValue a) * 16 + (← hexValue b)) * 256 + ((← hexValue c) * 16 + (← hexValue d))

def isHighSurrogate (u : Nat) : Bool := 0xD800 ≤ u && u ≤ 0xDBFF

def isLowSurrogate (u : Nat) : Bool := 0xDC00 ≤ u && u ≤ 0xDFFF

/-- The character a surrogate pair stands for. -/
def surrogatePair (high low : Nat) : Char :=
  Char.ofNat (0x10000 + (high - 0xD800) * 0x400 + (low - 0xDC00))

/-- The character after a backslash, the four-digit form apart. -/
def shortEscape : Char → Option Char
  | '"' => some '"'
  | '\\' => some '\\'
  | '/' => some '/'
  | 'b' => some '\x08'
  | 'f' => some '\x0c'
  | 'n' => some '\n'
  | 'r' => some '\r'
  | 't' => some '\t'
  | _ => none

/-- The characters up to the closing quote, after those already read (`done`,
last first), and what follows the quote. -/
def stringBody (done : List Char) : List Char → Option (List Char × List Char)
  | '"' :: rest => some (done.reverse, rest)
  | '\\' :: 'u' :: a :: b :: c :: d :: rest =>
    match codeUnit a b c d with
    | none => none
    | some unit =>
      if isHighSurrogate unit then
        match rest with
        | '\\' :: 'u' :: e :: f :: g :: h :: rest =>
          match codeUnit e f g h with
          | none => none
          | some low =>
            if isLowSurrogate low then stringBody (surrogatePair unit low :: done) rest else none
        | _ => none
      else if isLowSurrogate unit then none
      else stringBody (Char.ofNat unit :: done) rest
  | '\\' :: c :: rest =>
    match shortEscape c with
    | none => none
    | some escaped => stringBody (escaped :: done) rest
  | c :: rest => if c < ' ' || c = '\\' then none else stringBody (c :: done) rest
  | [] => none

/-- A string whose opening quote has been read. -/
def string (cs : List Char) : Option (String × List Char) :=
  (stringBody [] cs).map fun (text, rest) => (String.ofList text, rest)

/-! ### Values -/

/-- A value that holds no other value. -/
def scalar : List Char → Option (Json × List Char)
  | 'n' :: 'u' :: 'l' :: 'l' :: rest => some (.null, rest)
  | 't' :: 'r' :: 'u' :: 'e' :: rest => some (.bool true, rest)
  | 'f' :: 'a' :: 'l' :: 's' :: 'e' :: rest => some (.bool false, rest)
  | '"' :: rest => (string rest).map fun (text, rest) => (.str text, rest)
  | cs =>
    match Numeral.scan cs with
    | none => none
    | some (n, rest) => if n.tooLarge then none else some (.num n, rest)

/-- The items of an array from the first blank before one of them, and what follows
the closing bracket. `size` bounds the number of items. -/
def items (next : List Char → Option (Json × List Char)) (done : List Json) :
    (size : Nat) → List Char → Option (List Json × List Char)
  | 0, _ => none
  | size + 1, cs =>
    match next (skipBlanks cs) with
    | none => none
    | some (item, cs) =>
      match skipBlanks cs with
      | ',' :: cs => items next (item :: done) size cs
      | ']' :: cs => some ((item :: done).reverse, cs)
      | _ => none

/-- The members of an object, as `items`. -/
def members (next : List Char → Option (Json × List Char)) (done : List (String × Json)) :
    (size : Nat) → List Char → Option (List (String × Json) × List Char)
  | 0, _ => none
  | size + 1, cs =>
    match skipBlanks cs with
    | '"' :: cs =>
      match string cs with
      | none => none
      | some (key, cs) =>
        match skipBlanks cs with
        | ':' :: cs =>
          match next (skipBlanks cs) with
          | none => none
          | some (value, cs) =>
            match skipBlanks cs with
            | ',' :: cs => members next ((key, value) :: done) size cs
            | '}' :: cs => some (((key, value) :: done).reverse, cs)
            | _ => none
        | _ => none
    | _ => none

/-- One value at the head of the text and what follows it. Arrays and objects may
nest `depth` levels; `size` is the length of the whole text, which no array or
object outgrows. -/
def value (size : Nat) : (depth : Nat) → List Char → Option (Json × List Char)
  | 0, cs => scalar cs
  | depth + 1, '[' :: cs =>
    match skipBlanks cs with
    | ']' :: cs => some (.arr [], cs)
    | cs => (items (value size depth) [] size cs).map fun (vs, rest) => (.arr vs, rest)
  | depth + 1, '{' :: cs =>
    match skipBlanks cs with
    | '}' :: cs => some (.obj [], cs)
    | cs => (members (value size depth) [] size cs).map fun (ms, rest) => (.obj ms, rest)
  | _ + 1, cs => scalar cs

/-- The value a text consists of. -/
def ofText? (depth : Nat) (text : String) : Option Json :=
  let cs := text.toList
  match value cs.length depth (skipBlanks cs) with
  | some (v, rest) => if (skipBlanks rest).isEmpty then some v else none
  | none => none

/-- The deepest nesting of arrays and objects in a document. -/
def maxNesting : Nat := 127

/-- The value a document consists of, given as UTF-8. -/
def ofBytes? (body : ByteArray) : Option Json :=
  (String.fromUTF8? body).bind (ofText? maxNesting)

end ScriptGate.Json
