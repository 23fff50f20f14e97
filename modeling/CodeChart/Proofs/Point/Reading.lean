import CodeChart.Proofs.Point.Numeral
import CodeChart.Span

/-!
# Reading tokens

A token is read as a point if it is a numeral with a value in the range of points, and no other
token is read (`pointOfToken_reads_numerals`).  So the numeral of every point is read as this point.

A token that is not read is told with one defect.  The sign is taken off, and the digits in front of
the first other character are all that decides about the range; only if their value is in it does it
matter what stands behind them (`signed_eq_error_iff`).  `pointOfToken_tells_defect` says this of
tokens as a whole.
-/

namespace CodeChart

namespace Point

/-! ## Numerals of any value -/

/-- The numeral of a number is one or more digits. -/
theorem isDigits_natural (n : Nat) : IsDigits (Text.Decimal.natural n) :=
  ⟨Nat.toDigits_ne_nil, fun _ => Nat.isDigit_of_mem_toDigits (by decide) (by decide)⟩

/-- The numeral of an integer denotes the integer. -/
theorem denotes_text (i : Int) : Denotes (Text.Decimal.text i) i := by
  have value : Nat.ofDigitChars 10 (Text.Decimal.natural i.natAbs) 0 = i.natAbs :=
    Nat.ofDigitChars_ten_toDigits
  by_cases negative : i < 0
  · refine ⟨.minus, ['-'], Text.Decimal.natural i.natAbs, .minus, isDigits_natural _, ?_, ?_⟩
    · rw [Text.Decimal.text, Text.Decimal.integer, if_pos negative]
      exact String.toList_ofList
    · rw [value, Sign.apply]
      omega
  · refine ⟨.plus, [], Text.Decimal.natural i.natAbs, .none, isDigits_natural _, ?_, ?_⟩
    · rw [Text.Decimal.text, Text.Decimal.integer, if_neg negative]
      exact String.toList_ofList
    · rw [value, Sign.apply]
      omega

/-! ## Signs and digits -/

/-- The sign of a text and what stands behind it; a text without a sign counts up. -/
def Sign.parts : List Char → Sign × List Char
  | '+' :: rest => (.plus, rest)
  | '-' :: rest => (.minus, rest)
  | rest => (.plus, rest)

/-- A text that begins with no sign is all behind it. -/
theorem Sign.parts_of_unsigned {chars : List Char} (no_plus : ∀ rest, chars ≠ '+' :: rest)
    (no_minus : ∀ rest, chars ≠ '-' :: rest) : Sign.parts chars = (.plus, chars) := by
  unfold Sign.parts
  split
  · next rest => exact absurd rfl (no_plus rest)
  · next rest => exact absurd rfl (no_minus rest)
  · rfl

/-- A sign in front of digits is the sign of the text, with everything from the digits on behind
it. -/
theorem Sign.parts_append {sign : Sign} {mark digits : List Char} (marks : Sign.Marks sign mark)
    (are_digits : IsDigits digits) (behind : List Char) :
    Sign.parts (mark ++ (digits ++ behind)) = (sign, digits ++ behind) := by
  cases marks with
  | plus => rfl
  | minus => rfl
  | none =>
    obtain ⟨c, rest, rfl⟩ := List.exists_cons_of_ne_nil are_digits.1
    have isDigit : c.isDigit := are_digits.2 c List.mem_cons_self
    refine Sign.parts_of_unsigned (fun others eq => ?_) (fun others eq => ?_)
    · obtain rfl : c = '+' := (List.cons.inj eq).1
      exact absurd isDigit (by decide)
    · obtain rfl : c = '-' := (List.cons.inj eq).1
      exact absurd isDigit (by decide)

/-- Of a text the sign is taken off, and the rest is read as digits. -/
theorem integer_eq_signed {chars : List Char} (nonempty : chars ≠ []) :
    integer chars = signed (Sign.parts chars).1 (Sign.parts chars).2 := by
  unfold integer
  split
  · exact absurd rfl nonempty
  · rfl
  · rfl
  · next _ no_plus no_minus => rw [Sign.parts_of_unsigned no_plus no_minus]

/-- The limit of a sign is left where the range of points is left. -/
theorem Sign.limit_lt_iff {sign : Sign} {value : Nat} :
    sign.limit < value ↔
      sign ≠ .minus ∧ Int64.maxValue.toInt < value ∨
        sign = .minus ∧ -(value : Int) < Int64.minValue.toInt := by
  rw [Int64.toInt_minValue, Int64.toInt_maxValue]
  cases sign with
  | plus =>
    show 0x7FFFFFFFFFFFFFFF < value ↔ _
    constructor
    · exact fun outside => .inl ⟨by decide, by omega⟩
    · rintro (⟨-, outside⟩ | ⟨eq, -⟩)
      · omega
      · exact nomatch eq
  | minus =>
    show 0x8000000000000000 < value ↔ _
    constructor
    · exact fun outside => .inr ⟨rfl, by omega⟩
    · rintro (⟨ne, -⟩ | ⟨-, outside⟩)
      · exact absurd rfl ne
      · omega

/-- Digits are all of a text if there is no other character and at least one digit. -/
theorem isDigits_iff {chars : List Char} :
    IsDigits chars ↔ chars.takeWhile Char.isDigit = chars ∧ chars ≠ [] := by
  rw [IsDigits, List.takeWhile_eq_self_iff]
  exact and_comm

/-- What is read as digits is never told to be empty. -/
theorem signed_ne_empty {sign : Sign} {chars : List Char} :
    signed sign chars ≠ .error .empty := by
  rw [ne_eq, signed_eq_error_iff]
  cases sign <;> simp [Sign.overflow]

/-! ## Defects -/

/-- A text has a defect if it is empty, or else if its sign and its digits have one. -/
theorem ofString_eq_error_iff {text : String} {defect : Defect} :
    ofString text = .error defect ↔
      text = "" ∧ defect = .empty ∨
        text ≠ "" ∧
          signed (Sign.parts text.toList).1 (Sign.parts text.toList).2 = .error defect := by
  have told : ofString text = .error defect ↔ integer text.toList = .error defect := by
    rw [ofString]
    cases integer text.toList <;> simp [Except.map]
  rw [told]
  by_cases nothing : text = ""
  · subst nothing
    have empty : integer "".toList = .error .empty := rfl
    rw [empty]
    simp [eq_comm]
  · rw [integer_eq_signed (mt String.toList_eq_nil_iff.1 nothing)]
    simp [nothing]

/-- The value of digits in front goes on with the digits behind them. -/
theorem leading_append {digits : List Char} (are_digits : IsDigits digits) (behind : List Char) :
    leading (digits ++ behind) =
      Nat.ofDigitChars 10 (behind.takeWhile Char.isDigit) (Nat.ofDigitChars 10 digits 0) := by
  rw [leading, List.takeWhile_append_of_pos are_digits.2, Nat.ofDigitChars_append]

/-- A sign, digits and anything behind them are read as the digits and what is behind them. -/
theorem ofString_append_eq_error_iff {sign : Sign} {mark digits : List Char}
    (marks : Sign.Marks sign mark) (are_digits : IsDigits digits) (behind : List Char)
    {defect : Defect} :
    ofString (String.ofList (mark ++ (digits ++ behind))) = .error defect ↔
      signed sign (digits ++ behind) = .error defect := by
  rw [ofString_eq_error_iff, String.toList_ofList, Sign.parts_append marks are_digits]
  simp [are_digits.1]

/-- Digits with a value beyond the limit are told as such, whatever stands behind them. -/
theorem ofString_of_outside {sign : Sign} {mark digits : List Char} (marks : Sign.Marks sign mark)
    (are_digits : IsDigits digits) (outside : sign.limit < Nat.ofDigitChars 10 digits 0)
    (behind : List Char) :
    ofString (String.ofList (mark ++ (digits ++ behind))) = .error sign.overflow := by
  have grows := le_ofDigitChars (behind.takeWhile Char.isDigit) (Nat.ofDigitChars 10 digits 0)
  rw [ofString_append_eq_error_iff marks are_digits, signed_eq_error_iff,
    leading_append are_digits]
  exact .inl ⟨Nat.lt_of_lt_of_le outside grows, rfl⟩

/-- Digits with a value within the limit and another character behind them are told because of that
character, also where no further digit would be within the limit. -/
theorem ofString_of_inside {sign : Sign} {mark digits : List Char} (marks : Sign.Marks sign mark)
    (are_digits : IsDigits digits) (inside : Nat.ofDigitChars 10 digits 0 ≤ sign.limit) {c : Char}
    (other : ¬ c.isDigit) (behind : List Char) :
    ofString (String.ofList (mark ++ (digits ++ c :: behind))) = .error .notADigit := by
  have mixed : ¬ IsDigits (digits ++ c :: behind) := fun all => other (all.2 c (by simp))
  rw [ofString_append_eq_error_iff marks are_digits, signed_eq_error_iff,
    leading_append are_digits, List.takeWhile_cons_of_neg other, Nat.ofDigitChars_nil]
  exact .inr ⟨inside, mixed, rfl⟩

end Point

namespace Span

/-! ## Tokens -/

theorem pointOfToken_eq_ok_iff {token : String} {point : Int64} :
    pointOfToken token = .ok point ↔ Point.Spells token point := by
  rw [← Point.ofString_eq_ok_iff, pointOfToken]
  cases Point.ofString token <;> simp [Except.mapError]

/-- A token that is not read is told as it is, with its defect. -/
theorem pointOfToken_eq_error_iff {token : String} {fault : Fault} :
    pointOfToken token = .error fault ↔
      ∃ defect, fault = .unreadable token defect ∧ Point.ofString token = .error defect := by
  rw [pointOfToken]
  cases Point.ofString token <;> simp [Except.mapError, eq_comm]

/-- A token is read as a point exactly if it is an optional sign and one or more decimal digits,
with nothing before, between or after, and their value is in the range of points; and the point that
is read has this value.  In particular the numeral of every point is read as the point. -/
theorem pointOfToken_reads_numerals :
    (∀ (token : String) (value : Int),
      (∃ point, pointOfToken token = .ok point ∧ point.toInt = value) ↔
        Point.Denotes token value ∧
          Int64.minValue.toInt ≤ value ∧ value ≤ Int64.maxValue.toInt) ∧
    ∀ point : Int64, pointOfToken (Text.Decimal.text point.toInt) = .ok point := by
  refine ⟨fun token value => ⟨?_, ?_⟩, fun point => ?_⟩
  · rintro ⟨point, read, rfl⟩
    have least := point.le_toInt
    have greatest := point.toInt_lt
    rw [Int64.toInt_minValue, Int64.toInt_maxValue]
    have spelled := pointOfToken_eq_ok_iff.1 read
    exact ⟨spelled, least, by omega⟩
  · rintro ⟨denotes, least, greatest⟩
    rw [Int64.toInt_minValue] at least
    rw [Int64.toInt_maxValue] at greatest
    have same : (Int64.ofInt value).toInt = value :=
      Int64.toInt_ofInt_of_le least (by omega)
    refine ⟨Int64.ofInt value, pointOfToken_eq_ok_iff.2 ?_, same⟩
    rw [Point.Spells, same]
    exact denotes
  · exact pointOfToken_eq_ok_iff.2 (Point.denotes_text point.toInt)

/-- A token that is not read is told as it is, with one defect, which is that of an empty text
exactly if the token is empty.  In any other token the sign is taken off, and the value of the
digits in front of the first other character is looked at.  The defect is that this value is above
the greatest point, or below the least one, exactly if it is; in all other cases it is a character
that is no digit, and then the digits do not reach to the end or there are none.

So nothing that stands behind digits with a value out of the range has a say in the defect, and a
character directly behind digits with a value in the range is told as no digit, also where one more
digit would have left the range. -/
theorem pointOfToken_tells_defect :
    (∀ (token : String) (fault : Fault), pointOfToken token = .error fault →
      ∃ defect, fault = .unreadable token defect ∧ (defect = .empty ↔ token = "") ∧
        ∀ sign rest, token ≠ "" → Point.Sign.parts token.toList = (sign, rest) →
          let digits := rest.takeWhile Char.isDigit
          let value := Nat.ofDigitChars 10 digits 0
          let above := sign ≠ .minus ∧ Int64.maxValue.toInt < value
          let below := sign = .minus ∧ -(value : Int) < Int64.minValue.toInt
          (defect = .aboveMax ↔ above) ∧ (defect = .belowMin ↔ below) ∧
            (defect = .notADigit ↔ ¬ above ∧ ¬ below) ∧
            (defect = .notADigit → digits ≠ rest ∨ rest = [])) ∧
    ∀ sign mark digits, Point.Sign.Marks sign mark → Point.IsDigits digits →
      (sign.limit < Nat.ofDigitChars 10 digits 0 → ∀ behind,
        let token := String.ofList (mark ++ (digits ++ behind))
        pointOfToken token = .error (.unreadable token sign.overflow)) ∧
      (Nat.ofDigitChars 10 digits 0 ≤ sign.limit → ∀ c behind, ¬ c.isDigit →
        let token := String.ofList (mark ++ (digits ++ c :: behind))
        pointOfToken token = .error (.unreadable token .notADigit)) := by
  constructor
  · intro token fault unread
    obtain ⟨defect, told, found⟩ := pointOfToken_eq_error_iff.1 unread
    refine ⟨defect, told, ?_⟩
    rcases Point.ofString_eq_error_iff.1 found with ⟨nothing, rfl⟩ | ⟨something, unread⟩
    · exact ⟨iff_of_true rfl nothing, fun _ _ something => absurd nothing something⟩
    · refine ⟨iff_of_false ?_ something, ?_⟩
      · rintro rfl
        exact Point.signed_ne_empty unread
      · intro sign rest _ parts digits value above below
        rw [parts] at unread
        have range : sign.limit < value ↔ above ∨ below := Point.Sign.limit_lt_iff
        rcases Point.signed_eq_error_iff.1 unread with ⟨outside, rfl⟩ | ⟨inside, others, rfl⟩
        · cases sign with
          | plus =>
            have not_below : ¬ below := fun down => nomatch down.1
            have is_above : above := (range.1 outside).resolve_right not_below
            simp [Point.Sign.overflow, is_above, not_below]
          | minus =>
            have not_above : ¬ above := fun up => up.1 rfl
            have is_below : below := (range.1 outside).resolve_left not_above
            simp [Point.Sign.overflow, is_below, not_above]
        · obtain ⟨not_above, not_below⟩ := not_or.1 (mt range.2 (Nat.not_lt.2 inside))
          have ends : digits ≠ rest ∨ rest = [] := by
            rw [Point.isDigits_iff, not_and_or, not_not] at others
            exact others
          simp [not_above, not_below, ends]
  · intro sign mark digits marks are_digits
    refine ⟨fun outside behind => ?_, fun inside c behind other => ?_⟩
    · exact pointOfToken_eq_error_iff.2
        ⟨_, rfl, Point.ofString_of_outside marks are_digits outside behind⟩
    · exact pointOfToken_eq_error_iff.2
        ⟨_, rfl, Point.ofString_of_inside marks are_digits inside other behind⟩

/-- One above the greatest point and with a letter behind it, a letter where one more digit would
have left the range, and a hyphen alone. -/
theorem defects_around_the_limits :
    Point.Sign.plus.limit < Nat.ofDigitChars 10 "9223372036854775808".toList 0 ∧
    pointOfToken "9223372036854775808x" =
      .error (.unreadable "9223372036854775808x" .aboveMax) ∧
    Nat.ofDigitChars 10 "922337203685477581".toList 0 ≤ Point.Sign.plus.limit ∧
    pointOfToken "922337203685477581x" =
      .error (.unreadable "922337203685477581x" .notADigit) ∧
    pointOfToken "-" = .error (.unreadable "-" .notADigit) := by
  have beyond : Point.IsDigits "9223372036854775808".toList :=
    ⟨by decide, List.all_eq_true.1 (by decide)⟩
  have within : Point.IsDigits "922337203685477581".toList :=
    ⟨by decide, List.all_eq_true.1 (by decide)⟩
  obtain ⟨tells, around⟩ := pointOfToken_tells_defect
  refine ⟨by decide, (around .plus [] _ .none beyond).1 (by decide) ['x'], by decide,
    (around .plus [] _ .none within).2 (by decide) 'x' [] (by decide), ?_⟩
  obtain ⟨fault, unread⟩ : ∃ fault, pointOfToken "-" = .error fault := ⟨_, rfl⟩
  obtain ⟨defect, rfl, -, decides⟩ := tells "-" fault unread
  obtain ⟨-, -, alone, -⟩ := decides .minus [] (by decide) rfl
  rw [unread, alone.2 (by decide)]

end Span

end CodeChart
