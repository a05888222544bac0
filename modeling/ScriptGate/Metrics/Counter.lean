import ScriptGate.Metrics.Series

/-! Counters: sums of machine words, which wrap around. -/
namespace ScriptGate.Metrics

structure Counter where
  family : Family UInt64 := []
  deriving DecidableEq, Repr

namespace Counter

def add (c : Counter) (labels : List Label) (n : UInt64) : Counter :=
  ⟨c.family.update (LabelSet.ofList labels) 0 (· + n)⟩

def increment (c : Counter) (labels : List Label) : Counter := c.add labels 1

/-- The count under these labels, in any order; nothing counted is zero. -/
def get (c : Counter) (labels : List Label) : UInt64 :=
  (c.family.get? (LabelSet.ofList labels)).getD 0

/-- The line of one series. -/
def line (name : String) (series : LabelSet × UInt64) : String :=
  name ++ "\x7b" ++ series.1.text ++ "\x7d " ++ toString series.2.toNat

def lines (c : Counter) (name : String) : List String :=
  ("# TYPE " ++ name ++ " counter") :: c.family.map (line name)

end Counter

end ScriptGate.Metrics
