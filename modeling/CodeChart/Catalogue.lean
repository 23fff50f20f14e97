import CodeChart.Text.Numeral

/-!
# Lines and catalogues

A line is handed over in pieces, in the order in which they are written.  The line end is not part
of it.

A catalogue gives the line for each point, or refuses the point.  The walk over a span knows no more
about the lines than this, so a chart of other things than characters is only another catalogue.
-/

namespace CodeChart

/-- A line without its end. -/
structure Line where
  /-- The pieces, in order. -/
  pieces : List String

/-- The pieces as one text. -/
def Line.text (line : Line) : String :=
  String.join line.pieces

/-- A point that has no entry. -/
structure NoEntry where
  /-- The point. -/
  point : Int64
  deriving DecidableEq

/-- The line of each point that has one. -/
abbrev Catalogue := Int64 → Except NoEntry Line

namespace Catalogue

/-- Has a line for every point, which says which point it is. -/
def echo : Catalogue := fun point =>
  .ok ⟨["point ", Text.Decimal.text point.toInt]⟩

/-- Has the text of the first row for a point, and no line for a point without a row. -/
def ofRows (rows : List (Int64 × String)) : Catalogue := fun point =>
  match rows.find? (·.1 == point) with
  | some row => .ok ⟨[row.2]⟩
  | none => .error ⟨point⟩

end Catalogue

end CodeChart
