import CodeChart.Proofs.Text.Plain
import CodeChart.Text.Literal

/-!
# Characters that break a line

A control character, or one of the two separators of Unicode, can end a line or do something else to
a terminal than to show a character.  None of them is shown as itself: ASCII prints none
(`not_breaks_of_isPlain`), and the table of literal characters has none (`not_breaks_of_isLiteral`).
-/

namespace CodeChart.Text

/-- A control character, below the space or from the delete character on, or a separator of lines or
paragraphs. -/
def breaks (c : Char) : Bool :=
  c.toNat < 0x20 || (0x7F ≤ c.toNat && c.toNat ≤ 0x9F) || c.toNat == 0x2028 || c.toNat == 0x2029

theorem breaks_iff {c : Char} :
    breaks c = true ↔
      (c.toNat < 0x20 ∨ 0x7F ≤ c.toNat ∧ c.toNat ≤ 0x9F) ∨ c.toNat = 0x2028 ∨ c.toNat = 0x2029 := by
  simp only [breaks, Bool.or_eq_true, Bool.and_eq_true, decide_eq_true_eq, beq_iff_eq, or_assoc]

/-- What ASCII prints breaks no line. -/
theorem not_breaks_of_isPlain {c : Char} (plain : isPlain c) : breaks c = false := by
  rw [isPlain, Bool.and_eq_true, decide_eq_true_eq, decide_eq_true_eq] at plain
  have least : 0x20 ≤ c.toNat := plain.1
  have greatest : c.toNat ≤ 0x7E := plain.2
  rw [← Bool.not_eq_true, breaks_iff]
  omega

/-- Nothing in a text that is all plain breaks a line. -/
theorem not_breaks_of_mem_plain {text : String} (plain : text.toList.all isPlain = true) {c : Char}
    (mem : c ∈ text.toList) : breaks c = false :=
  not_breaks_of_isPlain (List.all_eq_true.1 plain c mem)

/-! ## The table of literal characters -/

/-- The first members of the table are the space, the other characters that ASCII prints and, behind
a gap, the inverted exclamation mark. -/
theorem Literal.not_contains_of_le {code : Nat} (le : code ≤ 0xA0)
    (outside : code < 0x20 ∨ 0x7F ≤ code) : Literal.contains code = false := by
  revert code
  decide +kernel

/-- The separators are no members. -/
theorem Literal.not_contains_separators :
    Literal.contains 0x2028 = false ∧ Literal.contains 0x2029 = false := by
  decide +kernel

/-- What is shown as itself breaks no line. -/
theorem not_breaks_of_isLiteral {c : Char} (isLiteral : isLiteral c = true) : breaks c = false := by
  rw [← Bool.not_eq_true, breaks_iff]
  intro breaking
  have absent : Literal.contains c.toNat = false := by
    rcases breaking with control | line | paragraph
    · exact Literal.not_contains_of_le (by omega) (by omega)
    · rw [line]
      exact Literal.not_contains_separators.1
    · rw [paragraph]
      exact Literal.not_contains_separators.2
  exact absurd isLiteral (by rw [Text.isLiteral, absent]; decide)

/-- Nothing in a quoted text breaks a line, whatever is in the text. -/
theorem not_breaks_of_mem_quoted {text : String} {c : Char}
    (mem : c ∈ (Escape.quoted Text.isLiteral text).toList) : breaks c = false := by
  rcases plain_of_mem_quoted mem with plain | isLiteral
  · exact not_breaks_of_isPlain plain
  · exact not_breaks_of_isLiteral isLiteral

end CodeChart.Text
