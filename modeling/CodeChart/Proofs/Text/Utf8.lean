/-!
# Bytes and texts

A sequence of bytes is read as the one text that it encodes, or not at all.  A byte below 0x80
stands for a character of its own wherever it is, so bytes that are a text can be split at such
bytes, and the parts are texts again.
-/

namespace CodeChart.Text.Utf8

/-- Bytes are read as a text exactly if they are the bytes of that text. -/
theorem fromUTF8?_eq_some_iff {bytes : ByteArray} {text : String} :
    String.fromUTF8? bytes = some text ↔ bytes = text.toUTF8 := by
  constructor
  · intro read
    rw [String.fromUTF8?] at read
    split at read
    · exact Option.some.inj read ▸ rfl
    · exact absurd read (by simp)
  · rintro rfl
    have valid : text.toUTF8.IsValidUTF8 := text.isValidUTF8
    rw [String.fromUTF8?, dif_pos valid]
    rfl

/-- Bytes are not read exactly if they are not UTF-8. -/
theorem fromUTF8?_eq_none_iff {bytes : ByteArray} :
    String.fromUTF8? bytes = none ↔ ¬ bytes.IsValidUTF8 := by
  rw [String.fromUTF8?]
  split
  · next valid => simp [valid]
  · next invalid => simp [invalid]

/-- Bytes that are UTF-8 are the bytes of a text. -/
theorem exists_text_of_isValidUTF8 {bytes : ByteArray} (valid : bytes.IsValidUTF8) :
    ∃ text : String, bytes = text.toUTF8 :=
  ⟨⟨bytes, valid⟩, rfl⟩

/-! ## Bytes below 0x80 -/

/-- A character below U+0080 is one byte, and that byte is its code; the bytes of any other
character are all 0x80 or above. -/
theorem utf8EncodeChar_cases (c : Char) :
    (c.toNat < 0x80 ∧ String.utf8EncodeChar c = [c.toUInt8]) ∨
      (0x80 ≤ c.toNat ∧ ∀ byte ∈ String.utf8EncodeChar c, 0x80 ≤ byte.toNat) := by
  rcases Nat.lt_or_ge c.toNat 0x80 with ascii | beyond
  · refine .inl ⟨ascii, ?_⟩
    have small : c.val.toNat ≤ 0x7f := Nat.le_of_lt_succ ascii
    rw [String.utf8EncodeChar, if_pos small]
    rfl
  · refine .inr ⟨beyond, fun byte mem => ?_⟩
    have large : ¬ c.val.toNat ≤ 0x7f := Nat.not_le.2 beyond
    rw [String.utf8EncodeChar, if_neg large] at mem
    split at mem
    · simp only [List.mem_cons, List.not_mem_nil, or_false] at mem
      rcases mem with rfl | rfl <;> rw [UInt8.toNat_ofNat'] <;> omega
    · split at mem
      · simp only [List.mem_cons, List.not_mem_nil, or_false] at mem
        rcases mem with rfl | rfl | rfl <;> rw [UInt8.toNat_ofNat'] <;> omega
      · simp only [List.mem_cons, List.not_mem_nil, or_false] at mem
        rcases mem with rfl | rfl | rfl | rfl <;> rw [UInt8.toNat_ofNat'] <;> omega

/-- Characters below U+0080 are told apart by their bytes. -/
theorem eq_of_toUInt8_eq {c other : Char} (ascii : c.toNat < 0x80) (ascii' : other.toNat < 0x80)
    (same : c.toUInt8 = other.toUInt8) : c = other := by
  have codes : c.toNat % 256 = other.toNat % 256 := congrArg UInt8.toNat same
  apply Char.toNat_inj.1
  omega

/-- Bytes in front of the first one that is a character below U+0080 are the characters in front of
that character. -/
theorem takeWhile_flatMap_utf8EncodeChar {stop : Char} (ascii : stop.toNat < 0x80)
    (text : List Char) :
    (text.flatMap String.utf8EncodeChar).takeWhile (· ≠ stop.toUInt8) =
      (text.takeWhile (· ≠ stop)).flatMap String.utf8EncodeChar := by
  induction text with
  | nil => rfl
  | cons c rest ih =>
    rw [List.flatMap_cons]
    by_cases stops : c = stop
    · subst stops
      rcases utf8EncodeChar_cases c with ⟨-, single⟩ | ⟨beyond, -⟩
      · simp [single]
      · omega
    -- the byte of `stop` is in no other character
    · have others : ∀ byte ∈ String.utf8EncodeChar c, decide (byte ≠ stop.toUInt8) = true := by
        intro byte mem
        rw [decide_eq_true_iff]
        rintro rfl
        rcases utf8EncodeChar_cases c with ⟨ascii', single⟩ | ⟨-, high⟩
        · rw [single, List.mem_singleton] at mem
          exact stops (eq_of_toUInt8_eq ascii' ascii mem.symm)
        · have low : stop.toUInt8.toNat = stop.toNat % 256 := rfl
          have := high _ mem
          omega
      rw [List.takeWhile_append_of_pos others, ih,
        List.takeWhile_cons_of_pos (by simpa using stops), List.flatMap_cons]

/-- If the first byte of a text is below 0x80, the others are a text again. -/
theorem exists_tail_of_flatMap_eq_cons {text : List Char} {byte : UInt8} {rest : List UInt8}
    (ascii : byte.toNat < 0x80) (bytes : text.flatMap String.utf8EncodeChar = byte :: rest) :
    ∃ tail : List Char, rest = tail.flatMap String.utf8EncodeChar := by
  cases text with
  | nil => exact absurd bytes (by simp)
  | cons c tail =>
    rw [List.flatMap_cons] at bytes
    rcases utf8EncodeChar_cases c with ⟨-, single⟩ | ⟨-, high⟩
    · rw [single, List.singleton_append, List.cons.injEq] at bytes
      exact ⟨tail, bytes.2.symm⟩
    · cases encoded : String.utf8EncodeChar c with
      | nil => exact absurd encoded String.utf8EncodeChar_ne_nil
      | cons first more =>
        rw [encoded, List.cons_append, List.cons.injEq] at bytes
        have := high first (by rw [encoded]; exact List.mem_cons_self)
        rw [bytes.1] at this
        omega

/-- The bytes of a text, as a list. -/
theorem toList_data_toUTF8 (text : String) :
    text.toUTF8.data.toList = text.toList.flatMap String.utf8EncodeChar := by
  have bytes : text.toUTF8 = (text.toList.flatMap String.utf8EncodeChar).toByteArray :=
    String.utf8Encode_toList.symm
  rw [bytes, List.toList_data_toByteArray]

/-- The bytes of a list of characters are UTF-8. -/
theorem isValidUTF8_flatMap (text : List Char) :
    (text.flatMap String.utf8EncodeChar).toByteArray.IsValidUTF8 :=
  .intro text rfl

end CodeChart.Text.Utf8
