import CodeChart.Walk

/-!
# Walks one after another

A series walks over several spans in turn, all into one capture.  A walk that ends in a fault does
not end the series: the next one goes on with what the capture holds.  Each walk has a journal of
its own.
-/

namespace CodeChart.Walk

/-- One walk of a series. -/
structure Step where
  /-- The number of lines, or the fault. -/
  result : Except Fault UInt64
  /-- The bytes that this walk added. -/
  output : ByteArray
  /-- How many bytes the capture holds after it. -/
  total : Nat
  /-- The journal of this walk. -/
  journal : Journal

/-- The step that a walk makes, from the size of the capture before it and from how it ended, with
the capture after it. -/
def Step.ofResult (before : Nat) : EStateM.Result Fault (Session Capture) UInt64 → Step × Capture
  | .ok lines ⟨sink, journal⟩ =>
    (⟨.ok lines, sink.bytes.extract before sink.bytes.size, sink.bytes.size, journal⟩, sink)
  | .error fault ⟨sink, journal⟩ =>
    (⟨.error fault, sink.bytes.extract before sink.bytes.size, sink.bytes.size, journal⟩, sink)

/-- Walks over the spans in turn. -/
def series (catalogue : Catalogue) (level : Level) : List Span → Capture → List Step
  | [], _ => []
  | span :: rest, capture =>
    let before := capture.bytes.size
    let (step, capture) :=
      Step.ofResult before (chart catalogue span ⟨capture, Journal.empty level⟩)
    step :: series catalogue level rest capture

end CodeChart.Walk
