import CodeChart.Journal
import CodeChart.Span

/-!
# Walking over a span

A walk asks the catalogue for the line of each point of a span, in ascending order, and writes it to
a sink with a line feed after it.  It stops at the first point that the catalogue refuses and at the
first piece that the sink refuses; what was written before stays written.

The walk is a computation over a session, a sink and a journal.  It counts down the points that are
left, so it ends at the last point of a span also where there is no next one.
-/

namespace CodeChart

/-- What a walk writes to: the sink of the lines and the journal. -/
structure Session (σ : Type) where
  /-- Takes the lines. -/
  sink : σ
  /-- Keeps the records. -/
  journal : Journal

/-- A computation that writes to a session and may end in a fault. -/
abbrev Work (σ : Type) := EStateM Fault (Session σ)

namespace Work

variable {σ : Type}

/-- Makes a record. -/
def note (record : Record) : Work σ Unit
  | ⟨sink, journal⟩ => .ok () ⟨sink, journal.note record⟩

/-- Writes a text to the sink as one piece. -/
def put [Sink σ] (text : String) : Work σ Unit
  | ⟨sink, journal⟩ =>
    match Sink.write text.toUTF8 sink with
    | .ok () sink => .ok () ⟨sink, journal⟩
    | .error refusal sink => .error (.unwritten refusal) ⟨sink, journal⟩

/-- Writes a line piece by piece, and its end. -/
def putLine [Sink σ] (line : Line) : Work σ Unit := do
  line.pieces.forM put
  put "\n"

/-- A piece that the sink takes is written. -/
theorem put_of_ok [Sink σ] {text : String} {sink after : σ} (journal : Journal)
    (taken : Sink.write text.toUTF8 sink = .ok () after) :
    put text ⟨sink, journal⟩ = .ok () ⟨after, journal⟩ := by
  simp only [put, taken]

/-- A refusal is a fault, and the sink stays as the refusal left it. -/
theorem put_of_error [Sink σ] {text : String} {sink after : σ} {refusal : Refusal}
    (journal : Journal) (refused : Sink.write text.toUTF8 sink = .error refusal after) :
    put text ⟨sink, journal⟩ = .error (.unwritten refusal) ⟨after, journal⟩ := by
  simp only [put, refused]

/-- Goes on with a result, or ends in its fault. -/
def ofExcept {α : Type} : Except Fault α → Work σ α
  | .ok value => pure value
  | .error fault => throw fault

end Work

namespace Walk

variable {σ : Type} [Sink σ]

/-- Walks over as many points as are left, from a point on, and returns the number of lines with
those written before. -/
def steps (catalogue : Catalogue) : (left : Nat) → (point : Int64) → (written : UInt64) →
    Work σ UInt64
  | 0, _, written => pure written
  | left + 1, point, written => do
    let line ← Work.ofExcept ((catalogue point).mapError Fault.noEntry)
    Work.note (.resolved point line)
    Work.putLine line
    steps catalogue left (point + 1) (written + 1)

/-- The walk is over when no point is left. -/
@[simp] theorem steps_zero (catalogue : Catalogue) (point : Int64) (written : UInt64)
    (session : Session σ) :
    steps catalogue 0 point written session = .ok written session := rfl

/-- A point that the catalogue refuses ends the walk, and the session stays as it is. -/
theorem steps_of_error {catalogue : Catalogue} {point : Int64} {absent : NoEntry}
    (refused : catalogue point = .error absent) (left : Nat) (written : UInt64)
    (session : Session σ) :
    steps catalogue (left + 1) point written session = .error (.noEntry absent) session := by
  simp only [steps, refused]
  rfl

/-- A point with a line is recorded, written and counted, and the walk goes on behind it. -/
theorem steps_of_ok {catalogue : Catalogue} {point : Int64} {line : Line}
    (resolved : catalogue point = .ok line) (left : Nat) (written : UInt64) (sink : σ)
    (journal : Journal) :
    steps catalogue (left + 1) point written ⟨sink, journal⟩ =
      EStateM.bind (Work.putLine line) (fun _ => steps catalogue left (point + 1) (written + 1))
        ⟨sink, journal.note (.resolved point line)⟩ := by
  simp only [steps, resolved]
  rfl

/-- Walks over a span and returns the number of lines. -/
def chart (catalogue : Catalogue) (span : Span) : Work σ UInt64 := do
  Work.note (.started span.start span.stop)
  let written ← steps catalogue span.size span.start 0
  Work.note (.finished written)
  return written

end Walk

end CodeChart
