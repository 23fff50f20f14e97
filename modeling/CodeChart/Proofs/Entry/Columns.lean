import CodeChart.Entry
import CodeChart.Proofs.Text.Plain
import CodeChart.Proofs.Text.Unescape

/-!
# The columns of a line

The line of an entry is its four columns with a tab between two of them (`toList_text_line`).  Apart
from the tabs it shows plain characters and perhaps the character itself, if that is literal and has
no escape letter (`plain_of_mem_columns`).  So neither a tab nor a line feed stands in a column, and
the line splits at its tabs into exactly the columns (`splitOn_tab_line`).

`Line.code?` reads the code back from the first column, and `unescape?_glyph_ofCode` says that it
can be read from the second one too.
-/

namespace CodeChart

namespace Entry

/-- The columns of the line: code, quoted character, category and label. -/
def columns (entry : Entry) : List (List Char) := [
  ['U', '+'] ++ Text.Hex.padded entry.code.toNat,
  ['\''] ++ entry.glyph ++ ['\''],
  entry.category.abbreviation.toList,
  entry.label.toList]

/-- The line is its columns with tabs between them. -/
theorem toList_text_line (entry : Entry) :
    entry.line.text.toList = ['\t'].intercalate entry.columns := by
  simp [line, Line.text, columns, List.intercalate]

/-- The line begins with the code in upper case. -/
theorem text_line_begins (entry : Entry) :
    ∃ rest, entry.line.text =
      "U+" ++ String.ofList (Text.Hex.padded entry.code.toNat) ++ "\t" ++ rest := by
  have tab : "\t'" = "\t" ++ "'" := rfl
  rw [line, Line.text, String.join_cons, String.join_cons, String.join_cons, tab]
  exact ⟨_, by rw [String.append_assoc, String.append_assoc, String.append_assoc]⟩

/-! ## The characters of a line -/

theorem plain_of_mem_abbreviation {category : Category} {c : Char}
    (mem : c ∈ category.abbreviation.toList) : Text.isPlain c := by
  have all : category.abbreviation.toList.all Text.isPlain = true := by
    cases category <;> decide
  exact List.all_eq_true.1 all c mem

/-- Names are spelled with plain characters. -/
theorem plain_of_isLetter {c : Char} (letter : Name.isLetter c = true) : Text.isPlain c := by
  simp only [Name.isLetter, Bool.or_eq_true, beq_iff_eq] at letter
  rcases letter with ((upper | digit) | rfl) | rfl
  · have between : 'A' ≤ c ∧ c ≤ 'Z' := of_decide_eq_true upper
    exact Text.isPlain_of_le_of_le (by decide) (by decide) between.1 between.2
  · rw [Char.isDigit, Bool.and_eq_true, decide_eq_true_eq, decide_eq_true_eq] at digit
    have between : '0' ≤ c ∧ c ≤ '9' := digit
    exact Text.isPlain_of_le_of_le (by decide) (by decide) between.1 between.2
  · rfl
  · rfl

theorem plain_of_mem_standIn {category : Category} {c : Char}
    (mem : c ∈ (standIn category).toList) : Text.isPlain c := by
  have all : (standIn category).toList.all Text.isPlain = true := by
    cases category <;> decide
  exact List.all_eq_true.1 all c mem

theorem plain_of_mem_label {entry : Entry} {c : Char} (mem : c ∈ entry.label.toList) :
    Text.isPlain c := by
  unfold label at mem
  split at mem
  · next name _ => exact plain_of_isLetter (name.spells.2 c mem)
  · exact plain_of_mem_standIn mem

/-- What the second column shows is plain, or it is a character without an escape letter that is
literal. -/
theorem plain_of_mem_glyph {entry : Entry} {c : Char} (mem : c ∈ entry.glyph) :
    Text.isPlain c ∨ Text.isLiteral c = true ∧ Text.Escape.letter? c = none := by
  unfold glyph at mem
  split at mem
  · rcases Text.plain_of_mem_character mem with plain | ⟨rfl, isLiteral, none_found⟩
    · exact .inl plain
    · exact .inr ⟨isLiteral, none_found⟩
  · exact .inl (Text.plain_of_mem_code mem)

/-- The columns show plain characters, and characters without an escape letter that are literal. -/
theorem plain_of_mem_columns {entry : Entry} {column : List Char} {c : Char}
    (isColumn : column ∈ entry.columns) (mem : c ∈ column) :
    Text.isPlain c ∨ Text.isLiteral c = true ∧ Text.Escape.letter? c = none := by
  simp only [columns, List.mem_cons, List.not_mem_nil, or_false] at isColumn
  rcases isColumn with rfl | rfl | rfl | rfl
  · rw [List.mem_append] at mem
    rcases mem with front | digit
    · exact .inl (List.all_eq_true.1 (by decide) c front)
    · exact .inl (Text.plain_of_mem_padded digit)
  · simp only [List.mem_append, List.mem_singleton] at mem
    rcases mem with (rfl | shown) | rfl
    · exact .inl rfl
    · exact plain_of_mem_glyph shown
    · exact .inl rfl
  · exact .inl (plain_of_mem_abbreviation mem)
  · exact .inl (plain_of_mem_label mem)

/-- What is not plain and has an escape letter, such as a tab or a line feed, is in no column. -/
theorem not_mem_columns {entry : Entry} {column : List Char} (isColumn : column ∈ entry.columns)
    {c : Char} (not_plain : Text.isPlain c = false) (escaped : Text.Escape.letter? c ≠ none) :
    c ∉ column := by
  intro mem
  rcases plain_of_mem_columns isColumn mem with plain | ⟨-, none_found⟩
  · rw [not_plain] at plain
    exact absurd plain (by decide)
  · exact escaped none_found

/-- At its tabs the line splits into the columns. -/
theorem splitOn_tab_line (entry : Entry) :
    entry.line.text.toList.splitOn '\t' = entry.columns := by
  rw [toList_text_line]
  refine List.splitOn_intercalate '\t' (fun column isColumn => ?_) (by simp [columns])
  exact not_mem_columns isColumn (by decide) (by decide)

/-- The characters of a line are tabs and those of the columns. -/
theorem mem_line {entry : Entry} {c : Char} (mem : c ∈ entry.line.text.toList) :
    c = '\t' ∨ ∃ column ∈ entry.columns, c ∈ column := by
  rw [toList_text_line] at mem
  generalize entry.columns = columns at mem ⊢
  induction columns with
  | nil => exact absurd mem List.not_mem_nil
  | cons column rest ih =>
    cases rest with
    | nil =>
      rw [List.intercalate_singleton] at mem
      exact .inr ⟨column, List.mem_cons_self, mem⟩
    | cons next rest =>
      rw [List.intercalate_cons_cons, List.mem_append, List.mem_append, List.mem_singleton] at mem
      rcases mem with (own | rfl) | later
      · exact .inr ⟨column, List.mem_cons_self, own⟩
      · exact .inl rfl
      · rcases ih later with rfl | ⟨other, isColumn, mem⟩
        · exact .inl rfl
        · exact .inr ⟨other, List.mem_cons_of_mem column isColumn, mem⟩

/-- A line does not end before its last column. -/
theorem line_feed_not_mem_line (entry : Entry) : '\n' ∉ entry.line.text.toList := by
  intro mem
  rcases mem_line mem with eq | ⟨column, isColumn, mem⟩
  · exact absurd eq (by decide)
  · exact not_mem_columns isColumn (by decide) (by decide) mem

/-! ## Reading a line back -/

/-- The character in the second column reads back to the code, also where there is no character. -/
theorem unescape?_glyph_ofCode (code : UInt32) :
    Text.Escape.unescape? (ofCode code).glyph = some [code.toNat] := by
  refine Text.Escape.unescape?_of_feed? ?_
  rw [glyph, character?, code_ofCode]
  split
  · next c found =>
    have same : c.toNat = code.toNat := by
      unfold characterOf? at found
      split at found
      · exact Option.some.inj found ▸ rfl
      · exact absurd found (by simp)
    rw [← same]
    exact Text.Escape.Reader.feed?_character Text.isLiteral c
  · exact Text.Escape.Reader.feed?_code code.toNat

end Entry

/-- The code in the first of four columns. -/
def Line.code? (line : List Char) : Option Nat :=
  match line.splitOn '\t' with
  | ['U' :: '+' :: numeral, _, _, _] => Text.Hex.read? 'A' numeral
  | _ => none

/-- A line reads back to the code of its entry. -/
theorem Line.code?_line (entry : Entry) :
    Line.code? entry.line.text.toList = some entry.code.toNat := by
  rw [Line.code?, Entry.splitOn_tab_line, Entry.columns]
  exact Text.Hex.read?_padded entry.code.toNat

end CodeChart
