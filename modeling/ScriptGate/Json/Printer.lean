import ScriptGate.Json.Basic
import ScriptGate.Text.Characters

/-! The compact text of a JSON value: no blanks, and in strings only the quote, the
backslash and the control characters are escaped. -/
namespace ScriptGate.Json
open Text (hexDigit)

/-- A character inside a string. -/
def escape (c : Char) : List Char :=
  if c = '"' then ['\\', '"']
  else if c = '\\' then ['\\', '\\']
  else if c = '\x08' then ['\\', 'b']
  else if c = '\t' then ['\\', 't']
  else if c = '\n' then ['\\', 'n']
  else if c = '\x0c' then ['\\', 'f']
  else if c = '\r' then ['\\', 'r']
  else if c < ' ' then ['\\', 'u', '0', '0', hexDigit (c.toNat / 16), hexDigit (c.toNat % 16)]
  else [c]

/-- A string in its quotes. -/
def quoted (s : String) : List Char := '"' :: (s.toList.flatMap escape ++ ['"'])

def numeral (n : Numeral) : List Char :=
  (if n.negative then ['-'] else []) ++ n.whole ++
  (match n.fraction with
    | none => []
    | some digits => '.' :: digits) ++
  (match n.exponent with
    | none => []
    | some (negative, digits) => 'e' :: (if negative then '-' :: digits else digits))

mutual

def chars : Json → List Char
  | .null => ['n', 'u', 'l', 'l']
  | .bool true => ['t', 'r', 'u', 'e']
  | .bool false => ['f', 'a', 'l', 's', 'e']
  | .num n => numeral n
  | .str s => quoted s
  | .arr [] => ['[', ']']
  | .arr (v :: vs) => '[' :: (chars v ++ itemChars vs ++ [']'])
  | .obj [] => ['{', '}']
  | .obj ((key, v) :: ms) => '{' :: (quoted key ++ ':' :: chars v ++ memberChars ms ++ ['}'])

/-- The items after the first, each behind its comma. -/
def itemChars : List Json → List Char
  | [] => []
  | v :: vs => ',' :: (chars v ++ itemChars vs)

/-- The members after the first, each behind its comma. -/
def memberChars : List (String × Json) → List Char
  | [] => []
  | (key, v) :: ms => ',' :: (quoted key ++ ':' :: chars v ++ memberChars ms)

end

def render (v : Json) : String := String.ofList v.chars

end ScriptGate.Json
