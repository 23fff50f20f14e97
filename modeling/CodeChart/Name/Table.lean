import CodeChart.Rows
import CodeChart.Name.Table.Latin
import CodeChart.Name.Table.European
import CodeChart.Name.Table.MiddleEastern
import CodeChart.Name.Table.Indic
import CodeChart.Name.Table.MainlandAsian
import CodeChart.Name.Table.Syllabaries
import CodeChart.Name.Table.IslandAsian
import CodeChart.Name.Table.Phonetic
import CodeChart.Name.Table.Technical
import CodeChart.Name.Table.Shapes
import CodeChart.Name.Table.Operators
import CodeChart.Name.Table.Radicals
import CodeChart.Name.Table.EastAsian
import CodeChart.Name.Table.Yi
import CodeChart.Name.Table.Supplements
import CodeChart.Name.Table.Presentation
import CodeChart.Name.Table.Ancient
import CodeChart.Name.Table.Aramaic
import CodeChart.Name.Table.Brahmic
import CodeChart.Name.Table.Cuneiform
import CodeChart.Name.Table.Hieroglyphs
import CodeChart.Name.Table.Shorthand
import CodeChart.Name.Table.Musical
import CodeChart.Name.Table.Mathematical
import CodeChart.Name.Table.SignWriting
import CodeChart.Name.Table.Modern
import CodeChart.Name.Table.Pictographs
import CodeChart.Name.Table.Transport
import CodeChart.Name.Table.Legacy

/-!
# The table of names

The runs stand in one array for each area of the code space.  A name is looked up by the area its
code lies in, then by the run, then by its position in the run.
-/

namespace CodeChart.Name

/-- An interval of the code space with the runs of names in it. -/
structure Area where
  /-- The code at which the area starts. -/
  first : Nat
  /-- The runs, by ascending first code. -/
  runs : Array Run

namespace Table

/-- The areas, by ascending first code. -/
def areas : Array Area := #[
  ⟨0x0000, latin⟩, ⟨0x0300, european⟩, ⟨0x0590, middleEastern⟩, ⟨0x0900, indic⟩,
  ⟨0x0E00, mainlandAsian⟩, ⟨0x1200, syllabaries⟩, ⟨0x18B0, islandAsian⟩, ⟨0x1D00, phonetic⟩,
  ⟨0x2000, technical⟩, ⟨0x2400, shapes⟩, ⟨0x2800, operators⟩, ⟨0x2C00, radicals⟩,
  ⟨0x3000, eastAsian⟩, ⟨0xA000, yi⟩, ⟨0xA4D0, supplements⟩, ⟨0xF900, presentation⟩,
  ⟨0x10000, ancient⟩, ⟨0x10800, aramaic⟩, ⟨0x11000, brahmic⟩, ⟨0x12000, cuneiform⟩,
  ⟨0x13000, hieroglyphs⟩, ⟨0x16800, shorthand⟩, ⟨0x1CC00, musical⟩, ⟨0x1D400, mathematical⟩,
  ⟨0x1D800, signWriting⟩, ⟨0x1E000, modern⟩, ⟨0x1F000, pictographs⟩, ⟨0x1F600, transport⟩,
  ⟨0x1F900, legacy⟩, ⟨0xE0000, tags⟩]

/-- The name that the table has for a code. -/
def spelling? (code : Nat) : Option String := do
  let area ← Rows.floor? Area.first areas code
  let run ← Rows.floor? Run.first area.runs code
  run.spelling? code

end Table

end CodeChart.Name
