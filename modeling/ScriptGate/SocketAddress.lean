import ScriptGate.Text.Characters

/-! Socket addresses: an IPv4 address or an IPv6 address in brackets, then a colon and
the number of a service.

An IPv4 address is four numbers below 256 without leading zeros. An IPv6 address is
eight groups of up to four hexadecimal digits, where `::` stands for a run of zero
groups and an IPv4 address may stand for the last two; behind it may stand a scope.
Every reader takes what it reads off the head of a text, or refuses. -/
namespace ScriptGate

inductive SocketAddress where
  | v4 (octets : List Nat) (service : Nat)
  | v6 (groups : List Nat) (scope : Nat) (service : Nat)
  deriving DecidableEq, Repr

namespace SocketAddress

def isDigitOf (base : Nat) (c : Char) : Bool :=
  match Text.hexValue c with
  | some d => d < base
  | none => false

/-- A number below `limit`, of at most `width` digits if that is bounded. -/
def number (base limit : Nat) (width : Option Nat) (leadingZeros : Bool) (cs : List Char) :
    Option (Nat × List Char) :=
  let digits := cs.takeWhile (isDigitOf base)
  let tooLong := match width with
    | some n => n < digits.length
    | none => false
  if digits.isEmpty || tooLong then none
  else if !leadingZeros && digits.head? = some '0' && 1 < digits.length then none
  else if limit ≤ Text.digitsValue base digits then none
  else some (Text.digitsValue base digits, cs.dropWhile (isDigitOf base))

def exactly (c : Char) : List Char → Option (List Char)
  | d :: cs => if d = c then some cs else none
  | [] => none

def octet (cs : List Char) : Option (Nat × List Char) := number 10 256 (some 3) false cs

def ipv4 (cs : List Char) : Option (List Nat × List Char) := do
  let (a, cs) ← octet cs
  let (b, cs) ← octet (← exactly '.' cs)
  let (c, cs) ← octet (← exactly '.' cs)
  let (d, cs) ← octet (← exactly '.' cs)
  return ([a, b, c, d], cs)

/-- What a reader takes, behind a colon unless it is the first. -/
def separated {α : Type} (first : Bool) (read : List Char → Option (α × List Char))
    (cs : List Char) : Option (α × List Char) :=
  if first then read cs else (exactly ':' cs).bind read

/-- Groups of an IPv6 address, at most `limit`, and whether they ended in an IPv4 address,
which takes two. -/
def groups (first : Bool) : (limit : Nat) → List Char → List Nat × Bool × List Char
  | 0, cs => ([], false, cs)
  | limit + 1, cs =>
    let embedded := if limit = 0 then none else separated first ipv4 cs
    match embedded with
    | some ([a, b, c, d], cs) => ([a * 256 + b, c * 256 + d], true, cs)
    | _ =>
      match separated first (number 16 0x10000 (some 4) true) cs with
      | some (g, cs) =>
        let (gs, ended, cs) := groups false limit cs
        (g :: gs, ended, cs)
      | none => ([], false, cs)

def ipv6 (cs : List Char) : Option (List Nat × List Char) := do
  let (head, ended, cs) := groups true 8 cs
  if head.length = 8 then some (head, cs)
  else if ended then none
  else
    let cs ← exactly ':' (← exactly ':' cs)
    let (tail, _, cs) := groups true (7 - head.length) cs
    return (head ++ List.replicate (8 - head.length - tail.length) 0 ++ tail, cs)

/-- The number behind an address: sixteen bits, in any number of digits. -/
def service (cs : List Char) : Option (Nat × List Char) := do
  number 10 0x10000 none true (← exactly ':' cs)

def socketV4 (cs : List Char) : Option (SocketAddress × List Char) := do
  let (octets, cs) ← ipv4 cs
  let (service, cs) ← service cs
  return (.v4 octets service, cs)

def scope : List Char → Option (Nat × List Char)
  | '%' :: cs => number 10 0x100000000 none true cs
  | cs => some (0, cs)

def socketV6 (cs : List Char) : Option (SocketAddress × List Char) := do
  let (groups, cs) ← ipv6 (← exactly '[' cs)
  let (scope, cs) ← scope cs
  let (service, cs) ← service (← exactly ']' cs)
  return (.v6 groups scope service, cs)

/-- The address a text consists of. -/
def ofText? (text : String) : Option SocketAddress :=
  match (socketV4 text.toList).or (socketV6 text.toList) with
  | some (address, []) => some address
  | _ => none

end SocketAddress

end ScriptGate
