import CodeChart.Catalogue
import CodeChart.Category.Table
import CodeChart.Name
import CodeChart.Text.Escape
import CodeChart.Text.Literal

/-!
# Entries of the code chart

An entry says what the chart has for one code: its character, its general category and its name.  A
code that has no character, a surrogate or a code above U+10FFFF, has the category `Cs` and no name.

An entry is shown as a line of four columns: the code, the character in single quotes and escaped,
the category and a label.  The label is the name, or says in angle brackets why there is none.  The
lines of all codes are a catalogue, `Catalogue.unicode`.
-/

namespace CodeChart

/-- What the chart has for one code.  The character is not stored beside the code: the code decides
whether there is one and which (`character?`), so no entry shows a character of another code. -/
structure Entry where
  /-- The code. -/
  code : UInt32
  /-- The general category. -/
  category : Category
  /-- The name, if the character has one. -/
  name? : Option Name

namespace Entry

/-- The character of a code, `none` for a surrogate and for a code above U+10FFFF. -/
def characterOf? (code : UInt32) : Option Char :=
  if valid : code.isValidChar then some ⟨code, valid⟩ else none

/-- The entry of a character. -/
def ofChar (c : Char) : Entry where
  code := c.val
  category := Category.ofChar c
  name? := Name.of? c

/-- The entry of a code. -/
def ofCode (code : UInt32) : Entry :=
  match characterOf? code with
  | some c => ofChar c
  | none => ⟨code, .cs, none⟩

/-- The character of the entry. -/
def character? (entry : Entry) : Option Char :=
  characterOf? entry.code

/-- The label of a code without a name: in angle brackets what the code is. -/
def standIn : Category → String
  | .cc => "<control>"
  | .cs => "<surrogate>"
  | .co => "<private-use>"
  | .cn => "<unassigned>"
  | _ => "<unnamed>"

/-- The name, or what stands in for it. -/
def label (entry : Entry) : String :=
  match entry.name? with
  | some name => name.text
  | none => standIn entry.category

/-- The character as the line shows it; without a character, the escape of the code. -/
def glyph (entry : Entry) : List Char :=
  match entry.character? with
  | some c => Text.Escape.character Text.isLiteral c
  | none => Text.Escape.code entry.code.toNat

/-- The line of the entry: code, character, category and label, with a tab between two columns. -/
def line (entry : Entry) : Line where
  pieces := [
    "U+", String.ofList (Text.Hex.padded entry.code.toNat),
    "\t'", String.ofList entry.glyph,
    "'\t", entry.category.abbreviation,
    "\t", entry.label]

/-- The entry of a point, for the points from 0 to U+10FFFF. -/
def ofPoint (point : Int64) : Except NoEntry Entry :=
  if 0 ≤ point ∧ point ≤ 0x10FFFF then .ok (ofCode (UInt32.ofNat point.toInt.toNat))
  else .error ⟨point⟩

/-! ## Codes and characters -/

@[simp] theorem characterOf?_val (c : Char) : characterOf? c.val = some c := by
  simp [characterOf?, c.valid]

@[simp] theorem ofCode_val (c : Char) : ofCode c.val = ofChar c := by
  simp [ofCode]

@[simp] theorem character?_ofChar (c : Char) : (ofChar c).character? = some c :=
  characterOf?_val c

/-- The entry of a code is about that code. -/
@[simp] theorem code_ofCode (code : UInt32) : (ofCode code).code = code := by
  unfold ofCode characterOf?
  split
  · next c eq =>
    split at eq
    · exact (Option.some.inj eq) ▸ rfl
    · simp at eq
  · rfl

end Entry

/-- The code chart itself. -/
def Catalogue.unicode : Catalogue := fun point =>
  (Entry.ofPoint point).map Entry.line

end CodeChart
