/-! JSON values as the gate reads them.

A value keeps the members of an object in the order of its text, repeated names
included, and a number as its numeral: which member a name means (`member`) and
whether a numeral is a whole number (`Numeral.toNat?`) are questions asked of
the value later, so the reader does not have to decide them. -/
namespace ScriptGate

/-- A number as it is written: the digits before the point, the digits after it if
there is a point, and the exponent's sign and digits if there is one. -/
structure Numeral where
  negative : Bool := false
  whole : List Char
  fraction : Option (List Char) := none
  exponent : Option (Bool × List Char) := none
  deriving DecidableEq, Repr

inductive Json where
  | null
  | bool (value : Bool)
  | num (value : Numeral)
  | str (value : String)
  | arr (items : List Json)
  | obj (members : List (String × Json))
  deriving Repr

/-- What kind of value stands somewhere, for the messages that say so. -/
inductive JsonType where
  | null | bool | number | string | array | object
  deriving DecidableEq, Repr

def JsonType.name : JsonType → String
  | .null => "null"
  | .bool => "bool"
  | .number => "number"
  | .string => "string"
  | .array => "array"
  | .object => "object"

namespace Json

def type : Json → JsonType
  | .null => .null
  | .bool _ => .bool
  | .num _ => .number
  | .str _ => .string
  | .arr _ => .array
  | .obj _ => .object

/-- The member a name means: the last one written under it. -/
def member (name : String) : List (String × Json) → Option Json
  | [] => none
  | (key, value) :: rest =>
    match member name rest with
    | some later => some later
    | none => if key = name then some value else none

end Json

namespace Numeral

/-- The value of a decimal digit. -/
def digitValue (c : Char) : Nat := c.toNat - '0'.toNat

/-- The number a run of decimal digits denotes. -/
def digitsValue (digits : List Char) : Nat :=
  digits.foldl (fun n c => 10 * n + digitValue c) 0

/-- The natural number written without sign, point or exponent. -/
def toNat? (n : Numeral) : Option Nat :=
  if n.negative || n.fraction.isSome || n.exponent.isSome then none
  else some (digitsValue n.whole)

def ofNat (n : Nat) : Numeral := { whole := Nat.toDigits 10 n }

end Numeral

end ScriptGate
