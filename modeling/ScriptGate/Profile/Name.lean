import ScriptGate.Text.Alphanumeric
import ScriptGate.Text.Characters

/-! The names a profile may list.

A call is named by letters, digits and underscores, with at most one of `?`, `!` and
`=` behind them; a constant by the same characters after a capital letter of ASCII.
A list with any other entry is refused for the first such entry. -/
namespace ScriptGate

/-- What a list of names is about. -/
inductive NameSort where
  | call | constant
  deriving DecidableEq, Repr

/-- An entry of a list that is no name of its sort. -/
structure NameFault where
  sort : NameSort
  field : String
  entry : String
  deriving DecidableEq, Repr

namespace NameFault

def expected : NameSort → String
  | .call => "a method name"
  | .constant => "a constant name"

def message (f : NameFault) : String :=
  "invalid " ++ f.field ++ " entry: " ++ Text.quoted f.entry ++
    " (expected " ++ expected f.sort ++ ")"

end NameFault

namespace NameSort

def isNameChar (c : Char) : Bool := c = '_' || Text.isAlphanumeric c

/-- The mark that may end the name of a call. -/
def isCallMark (c : Char) : Bool := c = '?' || c = '!' || c = '='

/-- The name of a call without its mark. -/
def callBase (name : List Char) : List Char :=
  match name.getLast? with
  | some c => if isCallMark c then name.dropLast else name
  | none => name

/-- A name of this sort. -/
def admits (sort : NameSort) (name : String) : Bool :=
  match sort with
  | .call =>
    let base := callBase name.toList
    !base.isEmpty && base.all isNameChar
  | .constant =>
    match name.toList with
    | first :: rest => first.isUpper && rest.all isNameChar
    | [] => false

/-- The names of a list if all are of this sort. -/
def compile (sort : NameSort) (field : String) (names : List String) :
    Except NameFault (List String) :=
  match names.find? fun name => !sort.admits name with
  | some entry => .error ⟨sort, field, entry⟩
  | none => .ok names

end NameSort

end ScriptGate
