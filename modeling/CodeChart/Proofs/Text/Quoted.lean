import CodeChart.Proofs.Text.Plain
import CodeChart.Proofs.Text.Unescape

/-!
# Reading quoted texts

A quoted text ends at the first double quote that has no backslash in front of it, and what stands
before that quote reads back to the text.  So it can be read with anything behind it, also with what
looks like a part of it or like another quoted text: `readQuoted?_quoted`.  The reader does not know
which characters are literal.
-/

namespace CodeChart.Text.Escape

/-! ## The end of a quoted text -/

/-- What stands in front of the first double quote, and what stands behind it.  A character behind a
backslash is passed over. -/
def untilQuote? : List Char → Option (List Char × List Char)
  | [] => none
  | '"' :: rest => some ([], rest)
  | '\\' :: c :: rest => (untilQuote? rest).map (Prod.map (['\\', c] ++ ·) id)
  | c :: rest => (untilQuote? rest).map (Prod.map ([c] ++ ·) id)

theorem untilQuote?_backslash_cons (c : Char) (rest : List Char) :
    untilQuote? ('\\' :: c :: rest) =
      (untilQuote? rest).map (Prod.map (['\\', c] ++ ·) id) := by
  rw [untilQuote?]

theorem untilQuote?_cons_of_ne {c : Char} (no_quote : c ≠ '"') (no_backslash : c ≠ '\\')
    (rest : List Char) :
    untilQuote? (c :: rest) = (untilQuote? rest).map (Prod.map ([c] ++ ·) id) := by
  rw [untilQuote?]
  · exact no_quote
  · intro next others eq
    exact absurd eq no_backslash

/-- The text is passed over on the way to the first double quote. -/
def Passed (text : List Char) : Prop :=
  ∀ rest, untilQuote? (text ++ rest) = (untilQuote? rest).map (Prod.map (text ++ ·) id)

theorem Passed.nil : Passed [] := by
  intro rest
  rw [List.nil_append]
  cases untilQuote? rest <;> rfl

theorem Passed.append {text more : List Char} (passed : Passed text) (passed' : Passed more) :
    Passed (text ++ more) := by
  intro rest
  rw [List.append_assoc, passed, passed', Option.map_map]
  congr 1
  funext found
  simp only [Function.comp_apply, Prod.map, List.append_assoc, id]

theorem Passed.flatMap {text : List Char} {written : Char → List Char}
    (each : ∀ c ∈ text, Passed (written c)) : Passed (text.flatMap written) := by
  induction text with
  | nil => exact Passed.nil
  | cons c text ih =>
    rw [List.forall_mem_cons] at each
    rw [List.flatMap_cons]
    exact each.1.append (ih each.2)

/-- A character that is no double quote and no backslash does not end the text. -/
theorem Passed.single {c : Char} (clear : c ≠ '"' ∧ c ≠ '\\') : Passed [c] :=
  fun rest => untilQuote?_cons_of_ne clear.1 clear.2 rest

/-- Nor does any character behind a backslash. -/
theorem Passed.escaped (c : Char) : Passed ['\\', c] :=
  fun rest => untilQuote?_backslash_cons c rest

theorem digit_clear {d : Nat} (lt : d < 16) : d.digitChar ≠ '"' ∧ d.digitChar ≠ '\\' := by
  revert d
  decide

theorem Passed.code (n : Nat) : Passed (code n) := by
  have digits : Passed ((Hex.lower n).flatMap fun c => [c]) := by
    refine Passed.flatMap fun c mem => ?_
    obtain ⟨d, lt, rfl⟩ := exists_digit_of_mem_toDigits mem
    exact Passed.single (digit_clear lt)
  rw [List.flatMap_singleton'] at digits
  have opened : Passed (['\\', 'u'] ++ ['\x7b']) :=
    (Passed.escaped 'u').append (Passed.single (by decide))
  exact (opened.append digits).append (Passed.single (by decide))

/-- Nothing that a character of a quoted text is written as ends the text. -/
theorem Passed.inQuotes (literal : Char → Bool) (c : Char) : Passed (inQuotes literal c) := by
  unfold Escape.inQuotes
  split
  · next isQuote => exact Passed.single (isQuote ▸ by decide)
  · unfold character
    split
    · exact Passed.escaped _
    · next none_found =>
      split
      -- double quotes and backslashes have escape letters, so they are not put as themselves
      · refine Passed.single ⟨?_, ?_⟩
        · rintro rfl
          exact absurd none_found (by decide)
        · rintro rfl
          exact absurd none_found (by decide)
      · exact Passed.code c.toNat

/-! ## Reading a quoted text -/

/-- The characters of a quoted text read back to their codes. -/
theorem Reader.feed?_inQuotes (literal : Char → Bool) (c : Char) :
    plain.feed? (inQuotes literal c) = some ([c.toNat], plain) := by
  unfold inQuotes
  split
  · next isQuote =>
    subst isQuote
    rfl
  · exact feed?_character literal c

theorem Reader.feed?_flatMap_inQuotes (literal : Char → Bool) (text : List Char) :
    plain.feed? (text.flatMap (inQuotes literal)) = some (text.map Char.toNat, plain) := by
  induction text with
  | nil => rfl
  | cons c text ih => exact feed?_append (feed?_inQuotes literal c) ih

/-- A quoted text begins with a double quote. -/
theorem quoted_begins (literal : Char → Bool) (text : String) :
    ∃ rest, quoted literal text = "\"" ++ rest := by
  have joined : quoted literal text =
      String.ofList (['"'] ++ (text.toList.flatMap (inQuotes literal) ++ ['"'])) := by
    rw [quoted, List.append_assoc]
  exact ⟨_, joined.trans String.ofList_append⟩

/-- The text that is quoted at the beginning, and what stands behind its closing quote. -/
def readQuoted? : List Char → Option (String × List Char)
  | '"' :: rest => do
    let (front, behind) ← untilQuote? rest
    let codes ← unescape? front
    return (String.ofList (codes.map Char.ofNat), behind)
  | _ => none

/-- A quoted text is read with anything behind it, whichever characters are literal. -/
theorem readQuoted?_quoted (literal : Char → Bool) (text : String) (behind : List Char) :
    readQuoted? ((quoted literal text).toList ++ behind) = some (text, behind) := by
  have closed : untilQuote? (text.toList.flatMap (inQuotes literal) ++ '"' :: behind) =
      some (text.toList.flatMap (inQuotes literal), behind) := by
    have passed := Passed.flatMap fun c (_ : c ∈ text.toList) => Passed.inQuotes literal c
    have ends : untilQuote? ('"' :: behind) = some ([], behind) := by rw [untilQuote?]
    rw [passed, ends, Option.map_some, Prod.map, List.append_nil, id]
  have reads : unescape? (text.toList.flatMap (inQuotes literal)) =
      some (text.toList.map Char.toNat) :=
    unescape?_of_feed? (Reader.feed?_flatMap_inQuotes literal text.toList)
  have back : (text.toList.map Char.toNat).map Char.ofNat = text.toList := by
    rw [List.map_map]
    exact List.map_id'' Char.ofNat_toNat text.toList
  have opened : (quoted literal text).toList ++ behind =
      '"' :: (text.toList.flatMap (inQuotes literal) ++ '"' :: behind) := by
    simp [quoted]
  rw [opened, readQuoted?, closed]
  simp only [Option.bind_eq_bind, Option.bind_some, reads, back, String.ofList_toList,
    Option.pure_def]

/-- A text that imitates its own end and what comes behind it. -/
example : readQuoted? ("\"\\\": x\" \\u\x7b41\x7d\": y".toList) =
    some ("\": x", " \\u\x7b41\x7d\": y".toList) := by decide

end CodeChart.Text.Escape
