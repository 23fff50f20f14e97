/-!
# Names of the Hangul syllables

A syllable block has a leading consonant, a vowel and an optional trailing consonant.  The blocks
are coded without gaps in the order of these three, so the code of a block is a numeral whose digits
are the three positions, and its name is their short names in a row.
-/

namespace CodeChart.Name.Hangul

/-- Short names of the leading consonants. -/
def leading : Array String := #[
  "G", "GG", "N", "D", "DD", "R", "M", "B", "BB", "S", "SS", "", "J", "JJ", "C", "K", "T", "P", "H"]

/-- Short names of the vowels. -/
def vowels : Array String := #[
  "A", "AE", "YA", "YAE", "EO", "E", "YEO", "YE", "O", "WA", "WAE", "OE", "YO", "U", "WEO", "WE",
  "WI", "YU", "EU", "YI", "I"]

/-- Short names of the trailing consonants; the first stands for none. -/
def trailing : Array String := #[
  "", "G", "GG", "GS", "N", "NJ", "NH", "D", "L", "LG", "LM", "LB", "LS", "LT", "LP", "LH", "M",
  "B", "BS", "S", "SS", "NG", "J", "C", "K", "T", "P", "H"]

/-- The first syllable block. -/
def first : Nat := 0xAC00

/-- The name of a syllable block, `none` outside the blocks. -/
def spelling? (code : Nat) : Option String := do
  guard (first ≤ code)
  let block := code - first
  let lead ← leading[block / (vowels.size * trailing.size)]?
  let vowel ← vowels[block / trailing.size % vowels.size]?
  let tail ← trailing[block % trailing.size]?
  return "HANGUL SYLLABLE " ++ lead ++ vowel ++ tail

/-- No code outside the blocks is named as one. -/
theorem spelling?_eq_none {code : Nat} (outside : code < 0xAC00 ∨ 0xD7A3 < code) :
    spelling? code = none := by
  rcases outside with before | behind
  · have stopped : (guard (first ≤ code) : Option Unit) = none := if_neg (Nat.not_le.2 before)
    rw [spelling?, stopped]
    rfl
  · have from_first : first ≤ code := by
      rw [first]
      omega
    have passed : (guard (first ≤ code) : Option Unit) = some () := if_pos from_first
    have blocks : vowels.size * trailing.size = 588 := rfl
    have leads : leading.size = 19 := rfl
    have no_lead : leading.size ≤ (code - first) / (vowels.size * trailing.size) := by
      rw [blocks, leads, first]
      omega
    rw [spelling?, passed]
    simp only [Array.getElem?_eq_none no_lead, Option.bind_eq_bind, Option.bind_some,
      Option.bind_none]

end CodeChart.Name.Hangul
