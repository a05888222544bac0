/-! Series of measurements, told apart by their labels.

A label set is a list of named values that were put in order, which makes one set of
lists that are permutations of each other (`LabelSet.ofList`). A family of series is
updated at a label set, which then has a measurement; an update of one that has a
measurement adds no second one (`Family.update`). -/
namespace ScriptGate.Metrics

/-- A name and its value. -/
abbrev Label := String × String

/-- Labels are ordered by name, and under one name by value. -/
def Label.le (a b : Label) : Bool := a.1 < b.1 || (a.1 == b.1 && !(b.2 < a.2 : Bool))

/-- Labels, in the order that `LabelSet.ofList` gives them. -/
abbrev LabelSet := List Label

namespace LabelSet

/-- Put a label in its place. -/
def insert (l : Label) : LabelSet → LabelSet
  | [] => [l]
  | m :: rest => if l.le m then l :: m :: rest else m :: insert l rest

/-- The labels of a list, in order. -/
def ofList (labels : List Label) : LabelSet := labels.foldr insert []

/-- A text with something else written for each `c` in it. -/
def replace (c : Char) (written : List Char) (text : List Char) : List Char :=
  text.flatMap fun d => if d = c then written else [d]

/-- A label's value between quotes. Backslashes are doubled before any is put in front of
something else. -/
def quoted (value : String) : String :=
  let text := replace '\\' ['\\', '\\'] value.toList
  let text := replace '"' ['\\', '"'] text
  let text := replace '\n' ['\\', 'n'] text
  "\"" ++ String.ofList text ++ "\""

/-- The labels as they are written, with commas between them. -/
def text (labels : LabelSet) : String :=
  ",".intercalate (labels.map fun (name, value) => name ++ "=" ++ quoted value)

end LabelSet

/-- Measurements by label set, in the order in which the sets were first touched. -/
abbrev Family (α : Type) := List (LabelSet × α)

namespace Family

variable {α : Type}

/-- Change the measurement of a label set, which starts as `fresh`. -/
def update (labels : LabelSet) (fresh : α) (change : α → α) : Family α → Family α
  | [] => [(labels, change fresh)]
  | (other, a) :: rest =>
    if other = labels then (other, change a) :: rest
    else (other, a) :: update labels fresh change rest

def get? (labels : LabelSet) (family : Family α) : Option α :=
  (family.find? fun series => series.1 == labels).map Prod.snd

end Family

end ScriptGate.Metrics
