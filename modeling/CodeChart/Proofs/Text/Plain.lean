import CodeChart.Text.Escape

/-!
# Plain characters

The plain characters are those that ASCII can print, the space among them.  Numerals are plain, and
an escape adds only plain characters: whatever else an escaped character shows is the character
itself, which then is literal and has no escape letter (`plain_of_mem_character`).
-/

namespace CodeChart.Text

/-- A character that ASCII can print. -/
def isPlain (c : Char) : Bool :=
  ' ' ≤ c && c ≤ '~'

/-- What lies between the blank and the tilde is plain. -/
theorem isPlain_of_le_of_le {c low high : Char} (least : ' ' ≤ low) (greatest : high ≤ '~')
    (from_low : low ≤ c) (to_high : c ≤ high) : isPlain c := by
  rw [isPlain, Bool.and_eq_true, decide_eq_true_eq, decide_eq_true_eq]
  exact ⟨Char.le_trans least from_low, Char.le_trans to_high greatest⟩

/-! ## Numerals -/

/-- Numerals are made of digits. -/
theorem exists_digit_of_mem_toDigits {n : Nat} {c : Char} (mem : c ∈ Nat.toDigits 16 n) :
    ∃ d < 16, d.digitChar = c := by
  induction n using Nat.strongRecOn with
  | ind n ih =>
    by_cases small : n < 16
    · rw [Nat.toDigits_of_lt_base small, List.mem_singleton] at mem
      exact ⟨n, small, mem.symm⟩
    · rw [Nat.toDigits_of_base_le (by decide) (Nat.le_of_not_lt small), List.mem_append,
        List.mem_singleton] at mem
      rcases mem with front | last
      · exact ih (n / 16) (by omega) front
      · exact ⟨n % 16, Nat.mod_lt n (by decide), last.symm⟩

theorem plain_digitChar {d : Nat} (lt : d < 16) :
    isPlain d.digitChar ∧ isPlain d.digitChar.toUpper := by
  revert d
  decide

theorem plain_of_mem_lower {n : Nat} {c : Char} (mem : c ∈ Hex.lower n) : isPlain c := by
  obtain ⟨d, lt, rfl⟩ := exists_digit_of_mem_toDigits mem
  exact (plain_digitChar lt).1

theorem plain_of_mem_padded {n : Nat} {c : Char} (mem : c ∈ Hex.padded n) : isPlain c := by
  rw [Hex.padded, List.leftpad, List.mem_append, List.mem_replicate] at mem
  rcases mem with ⟨-, rfl⟩ | digit
  · rfl
  · rw [Hex.upper] at digit
    obtain ⟨lower, mem, rfl⟩ := List.mem_map.1 digit
    obtain ⟨d, lt, rfl⟩ := exists_digit_of_mem_toDigits mem
    exact (plain_digitChar lt).2

/-! ## Escapes -/

theorem plain_of_mem_code {n : Nat} {c : Char} (mem : c ∈ Escape.code n) : isPlain c := by
  rw [Escape.code, List.mem_append, List.mem_append, List.mem_singleton] at mem
  rcases mem with (front | digit) | rfl
  · exact List.all_eq_true.1 (by decide) c front
  · exact plain_of_mem_lower digit
  · rfl

/-- Escape letters are plain. -/
theorem plain_of_letter? {c letter : Char} (h : Escape.letter? c = some letter) :
    isPlain letter := by
  unfold Escape.letter? at h
  split at h <;> cases h <;> rfl

/-- What an escaped character shows is plain, or it is the character itself: a literal character
without an escape letter. -/
theorem plain_of_mem_character {literal : Char → Bool} {c shown : Char}
    (mem : shown ∈ Escape.character literal c) :
    isPlain shown ∨ shown = c ∧ literal c = true ∧ Escape.letter? c = none := by
  unfold Escape.character at mem
  split at mem
  · next letter found =>
    rw [List.mem_cons, List.mem_singleton] at mem
    rcases mem with rfl | rfl
    · exact .inl rfl
    · exact .inl (plain_of_letter? found)
  · next none_found =>
    split at mem
    · next isLiteral => exact .inr ⟨List.mem_singleton.1 mem, isLiteral, none_found⟩
    · exact .inl (plain_of_mem_code mem)

/-- What a quoted text shows is plain or literal. -/
theorem plain_of_mem_quoted {literal : Char → Bool} {text : String} {shown : Char}
    (mem : shown ∈ (Escape.quoted literal text).toList) : isPlain shown ∨ literal shown = true := by
  rw [Escape.quoted, String.toList_ofList, List.mem_append, List.mem_append, List.mem_singleton,
    List.mem_flatMap] at mem
  rcases mem with (rfl | ⟨c, -, inside⟩) | rfl
  · exact .inl rfl
  · unfold Escape.inQuotes at inside
    split at inside
    · next single =>
      rw [List.mem_singleton, single] at inside
      exact .inl (inside ▸ rfl)
    · rcases plain_of_mem_character inside with plain | ⟨rfl, isLiteral, -⟩
      · exact .inl plain
      · exact .inr isLiteral
  · exact .inl rfl

end CodeChart.Text
