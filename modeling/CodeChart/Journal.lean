import CodeChart.Catalogue

/-!
# Journals

A walk over a span is recorded in a journal: where it starts and stops, the line of each point, and
how many lines it wrote.  The level of the journal says how much detail it keeps; a record beyond
that level is not made.
-/

namespace CodeChart

/-- How much detail is kept. -/
inductive Level where
  /-- Nothing. -/
  | off
  /-- The start and the end of a walk. -/
  | debug
  /-- Also every line. -/
  | trace
  deriving DecidableEq

/-- What is recorded. -/
inductive Record where
  /-- A walk starts. -/
  | started (start stop : Int64)
  /-- The catalogue has a line for a point. -/
  | resolved (point : Int64) (line : Line)
  /-- A walk ended after its last point. -/
  | finished (lines : UInt64)

namespace Record

/-- What a journal keeps of a record: the level it belongs to and the text. -/
def message : Record → String
  | started start stop =>
    "DEBUG dumping code points " ++ Text.Decimal.text start.toInt ++ "..="
      ++ Text.Decimal.text stop.toInt
  | resolved point line => "TRACE " ++ Text.Decimal.text point.toInt ++ " => " ++ line.text
  | finished lines => "DEBUG wrote " ++ Text.Decimal.text lines.toNat ++ " lines"

/-- A journal of this level keeps the record. -/
def keptAt : Record → Level → Bool
  | _, .off => false
  | resolved .., .debug => false
  | _, _ => true

end Record

/-- The records of a walk, as far as the level keeps them. -/
structure Journal where
  /-- How much detail is kept. -/
  level : Level
  /-- The records kept, in order. -/
  records : Array Record

namespace Journal

/-- Nothing recorded yet. -/
def empty (level : Level) : Journal :=
  ⟨level, #[]⟩

/-- Makes a record, if the level keeps it. -/
def note (journal : Journal) (record : Record) : Journal :=
  if record.keptAt journal.level then ⟨journal.level, journal.records.push record⟩ else journal

/-- The texts of the records. -/
def messages (journal : Journal) : List String :=
  journal.records.toList.map Record.message

end Journal

end CodeChart
