import CodeChart.Name.Family
import CodeChart.Name.Hangul
import CodeChart.Name.Table

/-!
# Character names

A name is spelled with capital letters, digits, spaces and hyphens, and is not empty.  The spelling
is part of the type, so a name never holds a delimiter of a line or of a label, and no control.

A character is named by its syllable, by its family or by the table, whichever knows it.  All that
these know are spelled as names are, so none is lost on the way to the type (`text_of?`).
-/

namespace CodeChart

namespace Name

/-- A character that names are spelled with. -/
def isLetter (c : Char) : Bool :=
  c.isUpper || c.isDigit || c == ' ' || c == '-'

/-- The text spells a name. -/
def Spells (text : String) : Prop :=
  text.toList ≠ [] ∧ ∀ c ∈ text.toList, isLetter c = true

-- by way of `List.all`: a search for an instance may find one that goes through all characters
instance (text : String) : Decidable (Spells text) :=
  decidable_of_decidable_of_iff (p := text.toList ≠ [] ∧ text.toList.all isLetter = true)
    (and_congr Iff.rfl List.all_eq_true)

end Name

/-- The name of a character. -/
structure Name where
  /-- The name in full. -/
  text : String
  /-- It is spelled as names are. -/
  spells : Name.Spells text

namespace Name

/-- The name that a text spells, if it spells one. -/
def ofString? (text : String) : Option Name :=
  if spells : Spells text then some ⟨text, spells⟩ else none

/-- The text that names a code. -/
def spelling? (code : Nat) : Option String :=
  Hangul.spelling? code <|> Family.spelling? code <|> Table.spelling? code

/-- The name of a character, if it has one. -/
def of? (c : Char) : Option Name :=
  spelling? c.toNat >>= ofString?

end Name

end CodeChart
