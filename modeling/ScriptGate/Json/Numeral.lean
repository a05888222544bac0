import ScriptGate.Json.Basic

/-! Reading a JSON number and deciding whether it is in range.

A numeral is out of range when its value is too large for a double. The value is
taken as a significand times a power of ten: the significand is the digits that
fit into a machine word, a digit of the whole part that no longer fits raises the
exponent instead, and a digit of the fraction that no longer fits is dropped.
Significand, power and product are each rounded to the 53 bits of a double, and
the numeral is refused when the product leaves the range (`tooLarge`). Numbers
too small for a double are read as zero, so they are never refused. -/
namespace ScriptGate.Numeral

/-! ### The written form -/

/-- The digits after a point, of which there must be one. -/
def scanFraction : List Char → Option (Option (List Char) × List Char)
  | '.' :: rest =>
    match rest.takeWhile Char.isDigit with
    | [] => none
    | digits => some (some digits, rest.dropWhile Char.isDigit)
  | rest => some (none, rest)

/-- The sign and the digits of an exponent, of which there must be one. -/
def scanExponent : List Char → Option (Option (Bool × List Char) × List Char)
  | mark :: rest =>
    if mark = 'e' || mark = 'E' then
      let (negative, rest) := match rest with
        | '+' :: rest => (false, rest)
        | '-' :: rest => (true, rest)
        | rest => (false, rest)
      match rest.takeWhile Char.isDigit with
      | [] => none
      | digits => some (some (negative, digits), rest.dropWhile Char.isDigit)
    else some (none, mark :: rest)
  | [] => some (none, [])

/-- The digits of the whole part: a zero stands alone. -/
def scanWhole (cs : List Char) : Option (List Char × List Char) :=
  match cs.takeWhile Char.isDigit with
  | [] => none
  | '0' :: _ :: _ => none
  | digits => some (digits, cs.dropWhile Char.isDigit)

/-- A numeral at the head of the text, and what follows it. -/
def scan (cs : List Char) : Option (Numeral × List Char) := do
  let (negative, cs) := match cs with
    | '-' :: rest => (true, rest)
    | cs => (false, cs)
  let (whole, cs) ← scanWhole cs
  let (fraction, cs) ← scanFraction cs
  let (exponent, cs) ← scanExponent cs
  return ({ negative, whole, fraction, exponent }, cs)

/-! ### The range -/

/-- The largest significand. -/
def wordMax : Nat := Nat.pow 2 64 - 1

/-- The whole digits that fit into the significand, and how many were left over. -/
def takeWhole (significand : Nat) : List Char → Nat × Nat
  | [] => (significand, 0)
  | d :: ds =>
    let next := 10 * significand + digitValue d
    if next ≤ wordMax then takeWhole next ds else (significand, ds.length + 1)

/-- The fraction's digits that still fit, and how many they are. -/
def takeFraction (significand taken : Nat) : List Char → Nat × Nat
  | [] => (significand, taken)
  | d :: ds =>
    let next := 10 * significand + digitValue d
    if next ≤ wordMax then takeFraction next (taken + 1) ds else (significand, taken)

/-- Significand and power of ten. -/
def scientific (n : Numeral) : Nat × Int :=
  let (whole, left) := takeWhole 0 n.whole
  let (significand, taken) := takeFraction whole 0 (n.fraction.getD [])
  let shift : Int := match n.exponent with
    | none => 0
    | some (negative, digits) => if negative then -(digitsValue digits) else digitsValue digits
  (significand, left - taken + shift)

/-- The nearest number of 53 significant bits; a tie goes to the even one. -/
def nearest (n : Nat) : Nat :=
  let unit := Nat.pow 2 (n.log2 + 1 - 53)
  let quotient := n / unit
  let remainder := n % unit
  if unit < 2 * remainder || (2 * remainder = unit && quotient % 2 = 1)
    then (quotient + 1) * unit else quotient * unit

/-- The value does not fit into a double. -/
def tooLarge (n : Numeral) : Bool :=
  match n.scientific with
  | (0, _) => false
  | (significand, .ofNat power) =>
    308 < power || Nat.pow 2 1024 ≤ nearest (nearest significand * nearest (Nat.pow 10 power))
  | (_, .negSucc _) => false

end ScriptGate.Numeral
