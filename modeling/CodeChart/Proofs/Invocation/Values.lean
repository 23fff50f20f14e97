import CodeChart.Invocation
import CodeChart.Proofs.Text.Utf8

/-!
# What tokens stand for

Tokens that are UTF-8 stand for their texts, one for one, except that a `--` in front of all others
stands for nothing.  Such tokens are never taken for flags: the name of a flag is cut out of a token
at bytes below 0x80, so it is UTF-8 if the token is.  As soon as one token is not UTF-8, all of them
are rejected.
-/

namespace CodeChart.Invocation

/-! ## Tokens as texts -/

/-- The bytes of texts are read as these texts. -/
theorem decode_map_toUTF8 (texts : List String) : decode (texts.map String.toUTF8) = .ok texts := by
  have read : (texts.map String.toUTF8).mapM String.fromUTF8? = some texts := by
    induction texts with
    | nil => rfl
    | cons text rest ih =>
      rw [List.map_cons, List.mapM_cons, Text.Utf8.fromUTF8?_eq_some_iff.2 rfl, ih]
      rfl
  rw [decode, read]

/-- Tokens that are all UTF-8 are the bytes of texts. -/
theorem exists_texts_of_forall_isValidUTF8 {tokens : List Token}
    (valid : ∀ token ∈ tokens, token.IsValidUTF8) :
    ∃ texts : List String, tokens = texts.map String.toUTF8 := by
  induction tokens with
  | nil => exact ⟨[], rfl⟩
  | cons first rest ih =>
    rw [List.forall_mem_cons] at valid
    obtain ⟨text, rfl⟩ := Text.Utf8.exists_text_of_isValidUTF8 valid.1
    obtain ⟨texts, rfl⟩ := ih valid.2
    exact ⟨text :: texts, rfl⟩

/-- One token that is not UTF-8 is enough for the tokens not to be read. -/
theorem decode_of_mem_not_valid {tokens : List Token} {token : Token} (mem : token ∈ tokens)
    (invalid : ¬ token.IsValidUTF8) : decode tokens = .error .notUtf8 := by
  have unread : tokens.mapM String.fromUTF8? = none := by
    induction tokens with
    | nil => exact absurd mem List.not_mem_nil
    | cons first rest ih =>
      rw [List.mapM_cons]
      rcases List.mem_cons.1 mem with rfl | later
      · rw [Text.Utf8.fromUTF8?_eq_none_iff.2 invalid]
        rfl
      · rw [ih later]
        cases String.fromUTF8? first <;> rfl
  rw [decode, unread]

/-! ## Hyphens in front -/

/-- Two hyphens and nothing else are the token `--`. -/
theorem eq_hyphens_of_afterHyphens? {token : Token} (bare : afterHyphens? token = some []) :
    token = "--".toUTF8 := by
  unfold afterHyphens? at bare
  split at bare
  · next first second rest bytes =>
    split at bare
    · next hyphens =>
      obtain ⟨rfl, rfl⟩ := hyphens
      obtain rfl : rest = [] := Option.some.inj bare
      apply ByteArray.ext
      rw [← Array.toList_inj, bytes]
      rfl
    · exact absurd bare (by simp)
  · exact absurd bare (by simp)

/-- In a token that is UTF-8, what looks like the name of a flag is UTF-8. -/
theorem isValidUTF8_flagName {token : Token} {rest : List UInt8} (valid : token.IsValidUTF8)
    (follows : afterHyphens? token = some rest) :
    (flagName rest).toByteArray.IsValidUTF8 := by
  obtain ⟨text, rfl⟩ := Text.Utf8.exists_text_of_isValidUTF8 valid
  unfold afterHyphens? at follows
  rw [Text.Utf8.toList_data_toUTF8] at follows
  split at follows
  · next first second others bytes =>
    split at follows
    · next hyphens =>
      obtain ⟨rfl, rfl⟩ := hyphens
      obtain rfl : others = rest := Option.some.inj follows
      -- both hyphens are bytes below 0x80, so what follows them is a text
      obtain ⟨_, behind⟩ := Text.Utf8.exists_tail_of_flatMap_eq_cons (by decide) bytes
      obtain ⟨tail, rfl⟩ := Text.Utf8.exists_tail_of_flatMap_eq_cons (by decide) behind.symm
      rw [flagName, Text.Utf8.takeWhile_flatMap_utf8EncodeChar (by decide)]
      exact Text.Utf8.isValidUTF8_flatMap _
    · exact absurd follows (by simp)
  · exact absurd follows (by simp)

/-! ## Values -/

/-- A `--` in front of all other tokens is dropped. -/
theorem values_hyphens_cons (rest : List Token) : values ("--".toUTF8 :: rest) = decode rest := by
  have bare : afterHyphens? "--".toUTF8 = some [] := by decide
  rw [values, bare]

/-- Behind a `--` in front all texts stand for themselves, also another `--`. -/
theorem values_hyphens_texts (texts : List String) :
    values ("--".toUTF8 :: texts.map String.toUTF8) = .ok texts := by
  rw [values_hyphens_cons, decode_map_toUTF8]

/-- Otherwise tokens that are UTF-8 stand for their texts. -/
theorem values_map_toUTF8 {texts : List String} (no_hyphens : texts.head? ≠ some "--") :
    values (texts.map String.toUTF8) = .ok texts := by
  cases texts with
  | nil => rfl
  | cons text rest =>
    rw [List.map_cons, values, ← List.map_cons, decode_map_toUTF8]
    split
    · rfl
    · next bare =>
      have same : text = "--" := by
        have bytes : text.toByteArray = "--".toByteArray := eq_hyphens_of_afterHyphens? bare
        exact String.toByteArray_inj.1 bytes
      exact absurd (congrArg some same) no_hyphens
    · next flag _ follows =>
      obtain ⟨name, read⟩ := Text.Utf8.exists_text_of_isValidUTF8
        (isValidUTF8_flagName text.isValidUTF8 follows)
      rw [Text.Utf8.fromUTF8?_eq_some_iff.2 read]

/-- Tokens of which one is not UTF-8 are rejected. -/
theorem exists_rejection_of_mem_not_valid {tokens : List Token} {token : Token}
    (mem : token ∈ tokens) (invalid : ¬ token.IsValidUTF8) :
    ∃ rejection, values tokens = .error rejection := by
  cases tokens with
  | nil => exact absurd mem List.not_mem_nil
  | cons first rest =>
    rw [values]
    split
    · exact ⟨.notUtf8, decode_of_mem_not_valid mem invalid⟩
    · next bare =>
      have later : token ∈ rest := by
        rcases List.mem_cons.1 mem with rfl | later
        · rw [eq_hyphens_of_afterHyphens? bare] at invalid
          exact absurd "--".isValidUTF8 invalid
        · exact later
      exact ⟨.notUtf8, decode_of_mem_not_valid later invalid⟩
    · split
      · exact ⟨.notUtf8, decode_of_mem_not_valid mem invalid⟩
      · exact ⟨_, rfl⟩

end CodeChart.Invocation
