import ScriptGate.Metrics.Series

/-! Histograms of durations, in microseconds.

A bucket counts the durations up to its bound, so each counts at least what the one
before it does; the count of all of them stands in for a bucket without bound. -/
namespace ScriptGate.Metrics

/-- A span of time. -/
structure Duration where
  seconds : Nat
  nanos : Nat
  deriving DecidableEq, Repr

/-- Whole microseconds, at most the largest machine word. -/
def Duration.micros (d : Duration) : UInt64 :=
  UInt64.ofNat (min (d.seconds * 1000000 + d.nanos / 1000) (Nat.pow 2 64 - 1))

/-- The bounds of the buckets: from ten microseconds to a tenth of a second. -/
def bounds : List UInt64 := [10, 50, 100, 500, 1000, 5000, 10000, 50000, 100000]

structure Histogram where
  count : UInt64 := 0
  sum : UInt64 := 0
  /-- A count for each of the bounds. -/
  buckets : List UInt64 := bounds.map fun _ => 0
  deriving DecidableEq, Repr

namespace Histogram

def observe (h : Histogram) (micros : UInt64) : Histogram where
  count := h.count + 1
  sum := h.sum + micros
  buckets := List.zipWith (fun bound n => if micros ≤ bound then n + 1 else n) bounds h.buckets

/-- The lines of one series: a line for each bucket, then the sum and the count. -/
def lines (name : String) (series : LabelSet × Histogram) : List String :=
  let (labels, h) := series
  let text := LabelSet.text labels
  let before := if text.isEmpty then "" else text ++ ","
  let bucket (bound : String) (n : UInt64) : String :=
    name ++ "_bucket\x7b" ++ before ++ "le=\"" ++ bound ++ "\"\x7d " ++ toString n.toNat
  let total (part : String) (n : UInt64) : String :=
    name ++ part ++ "\x7b" ++ text ++ "\x7d " ++ toString n.toNat
  List.zipWith (fun bound n => bucket (toString bound.toNat) n) bounds h.buckets ++
    [bucket "+Inf" h.count, total "_sum" h.sum, total "_count" h.count]

end Histogram

structure Histograms where
  family : Family Histogram := []
  deriving DecidableEq, Repr

namespace Histograms

def observe (h : Histograms) (labels : List Label) (d : Duration) : Histograms :=
  ⟨h.family.update (LabelSet.ofList labels) {} (·.observe d.micros)⟩

def get (h : Histograms) (labels : List Label) : Histogram :=
  (h.family.get? (LabelSet.ofList labels)).getD {}

def lines (h : Histograms) (name : String) : List String :=
  ("# TYPE " ++ name ++ " histogram") :: h.family.flatMap (Histogram.lines name)

end Histograms

end ScriptGate.Metrics
