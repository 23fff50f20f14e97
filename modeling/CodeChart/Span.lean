import CodeChart.Fault

/-!
# Spans

A span is the points from its start to its stop, both included.  A span that starts after its stop
has no point.
-/

namespace CodeChart

/-- The points from `start` to `stop`. -/
structure Span where
  /-- The first point. -/
  start : Int64
  /-- The last point. -/
  stop : Int64
  deriving DecidableEq

namespace Span

/-- The number of points. -/
def size (span : Span) : Nat :=
  (span.stop.toInt - span.start.toInt + 1).toNat

/-- A span has no point exactly if it starts after its stop. -/
theorem size_eq_zero_iff (span : Span) : span.size = 0 ↔ span.stop < span.start := by
  rw [size, Int64.lt_iff_toInt_lt]
  omega

/-- Otherwise its points are counted from the start to the stop. -/
theorem toInt_size {span : Span} (ordered : span.start ≤ span.stop) :
    (span.size : Int) = span.stop.toInt - span.start.toInt + 1 := by
  rw [Int64.le_iff_toInt_le] at ordered
  rw [size]
  omega

/-- Reads a token as a point. -/
def pointOfToken (token : String) : Except Fault Int64 :=
  (Point.ofString token).mapError (Fault.unreadable token)

/-- Reads the two points of a span.  Their number is looked at first, then the start, then the
stop. -/
def ofTokens : List String → Except Fault Span
  | [start, stop] => do
    let start ← pointOfToken start
    let stop ← pointOfToken stop
    return ⟨start, stop⟩
  | tokens => .error (.notTwoPoints tokens.length)

end Span

end CodeChart
