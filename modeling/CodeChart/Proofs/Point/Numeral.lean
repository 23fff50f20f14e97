import CodeChart.Point
import Mathlib.Data.List.TakeWhile

/-!
# Numerals of points

A text spells a point if it is an optional sign and one or more decimal digits, and the point is
their value.  The reader looks at one character after the other and stops at the first defect;
`distance_eq` says what that comes to: the value of the digits up to the first other character
decides about the range, and only then does it matter whether there is another character.
`signed_cases` says the same of what stands behind a sign, where there has to be a digit, and
`ofString_eq_ok_iff` says that the reader takes exactly the texts that spell a point.
-/

namespace CodeChart.Point

/-! ## What a numeral is -/

/-- The ways to write a sign: where there is none, the value counts up. -/
inductive Sign.Marks : Sign → List Char → Prop
  /-- No sign. -/
  | none : Marks .plus []
  /-- A plus. -/
  | plus : Marks .plus ['+']
  /-- A hyphen. -/
  | minus : Marks .minus ['-']

/-- One or more decimal digits. -/
def IsDigits (digits : List Char) : Prop :=
  digits ≠ [] ∧ ∀ c ∈ digits, c.isDigit

/-- The text is an optional sign and decimal digits, with nothing before, between or after, and
their value is this integer, in the range of points or not. -/
def Denotes (text : String) (value : Int) : Prop :=
  ∃ sign mark digits, Sign.Marks sign mark ∧ IsDigits digits ∧ text.toList = mark ++ digits ∧
    value = sign.apply (Nat.ofDigitChars 10 digits 0)

/-- The text denotes the point. -/
def Spells (text : String) (point : Int64) : Prop :=
  Denotes text point.toInt

/-! ## Reading digits -/

/-- More digits do not make a value smaller. -/
theorem le_ofDigitChars (digits : List Char) (value : Nat) :
    value ≤ Nat.ofDigitChars 10 digits value := by
  rw [Nat.ofDigitChars_eq_ofDigitChars_zero]
  have power : 0 < 10 ^ digits.length := Nat.pow_pos (by decide)
  have := Nat.le_mul_of_pos_left value power
  omega

theorem digit?_of_isDigit {c : Char} (isDigit : c.isDigit) :
    digit? c = some (c.toNat - '0'.toNat) := by
  rw [digit?, if_pos isDigit]

theorem digit?_of_not_isDigit {c : Char} (other : ¬ c.isDigit) : digit? c = none := by
  rw [digit?, if_neg other]

/-- Of the digits in front of the first other character the value is taken, and it has to be within
the limit.  If it is, there has to be no other character. -/
theorem distance_eq (sign : Sign) {value : Nat} (within : value ≤ sign.limit) (chars : List Char) :
    distance sign chars value =
      if sign.limit < Nat.ofDigitChars 10 (chars.takeWhile Char.isDigit) value then
        .error sign.overflow
      else if chars.all Char.isDigit then .ok (Nat.ofDigitChars 10 chars value)
      else .error .notADigit := by
  induction chars generalizing value with
  | nil => simp [distance, Nat.not_lt.2 within]
  | cons c rest ih =>
    rw [distance]
    by_cases isDigit : c.isDigit
    · rw [digit?_of_isDigit isDigit, List.takeWhile_cons_of_pos isDigit, Nat.ofDigitChars_cons,
        List.all_cons, isDigit, Bool.true_and, Nat.ofDigitChars_cons]
      dsimp only
      split
      · next inside => rw [ih inside]
      · next outside =>
        -- further digits do not bring the value back into the range
        have grows := le_ofDigitChars (rest.takeWhile Char.isDigit)
          (10 * value + (c.toNat - '0'.toNat))
        rw [if_pos (by omega)]
    · rw [digit?_of_not_isDigit isDigit, List.takeWhile_cons_of_neg isDigit, Nat.ofDigitChars_nil,
        if_neg (Nat.not_lt.2 within), List.all_cons, if_neg (by simp [isDigit])]

/-- The value of the digits in front of the first other character, zero if there are none. -/
def leading (chars : List Char) : Nat :=
  Nat.ofDigitChars 10 (chars.takeWhile Char.isDigit) 0

theorem leading_of_isDigits {digits : List Char} (are_digits : IsDigits digits) :
    leading digits = Nat.ofDigitChars 10 digits 0 := by
  rw [leading, List.takeWhile_eq_self_iff.2 are_digits.2]

/-- The digits in front decide about the range; only if their value is in it does it matter whether
they are all there is, and at least one. -/
theorem signed_cases (sign : Sign) (chars : List Char) :
    sign.limit < leading chars ∧ signed sign chars = .error sign.overflow ∨
    leading chars ≤ sign.limit ∧ IsDigits chars ∧
      signed sign chars = .ok (sign.apply (leading chars)) ∨
    leading chars ≤ sign.limit ∧ ¬ IsDigits chars ∧ signed sign chars = .error .notADigit := by
  cases chars with
  | nil =>
    have none_there : ¬ IsDigits [] := fun digits => digits.1 rfl
    exact .inr (.inr ⟨Nat.zero_le _, none_there, rfl⟩)
  | cons c rest =>
    have read : signed sign (c :: rest) = (distance sign (c :: rest) 0).map sign.apply := rfl
    rw [read, distance_eq sign (Nat.zero_le _), ← leading]
    by_cases outside : sign.limit < leading (c :: rest)
    · rw [if_pos outside]
      exact .inl ⟨outside, rfl⟩
    · rw [if_neg outside]
      have inside := Nat.not_lt.1 outside
      by_cases each : ∀ d ∈ c :: rest, d.isDigit
      · have digits : IsDigits (c :: rest) := ⟨List.cons_ne_nil c rest, each⟩
        rw [if_pos (List.all_eq_true.2 each), ← leading_of_isDigits digits]
        exact .inr (.inl ⟨inside, digits, rfl⟩)
      · rw [if_neg (mt List.all_eq_true.1 each)]
        exact .inr (.inr ⟨inside, fun digits => each digits.2, rfl⟩)

/-- Digits whose value is within the limit are read, and nothing else is. -/
theorem signed_eq_ok_iff {sign : Sign} {chars : List Char} {value : Int} :
    signed sign chars = .ok value ↔
      IsDigits chars ∧ Nat.ofDigitChars 10 chars 0 ≤ sign.limit ∧
        value = sign.apply (Nat.ofDigitChars 10 chars 0) := by
  rcases signed_cases sign chars with ⟨outside, read⟩ | ⟨inside, digits, read⟩ | ⟨-, others, read⟩
  · rw [read]
    refine iff_of_false (by simp) fun ⟨digits, within, _⟩ => ?_
    rw [leading_of_isDigits digits] at outside
    exact absurd within (Nat.not_le.2 outside)
  · rw [leading_of_isDigits digits] at inside read
    rw [read]
    simp [digits, inside, eq_comm]
  · rw [read]
    exact iff_of_false (by simp) fun read => others read.1

/-- Digits are not read if the value of those in front is beyond the limit; else if there is
another character, or no digit. -/
theorem signed_eq_error_iff {sign : Sign} {chars : List Char} {defect : Defect} :
    signed sign chars = .error defect ↔
      sign.limit < leading chars ∧ defect = sign.overflow ∨
        leading chars ≤ sign.limit ∧ ¬ IsDigits chars ∧ defect = .notADigit := by
  rcases signed_cases sign chars with ⟨outside, read⟩ | ⟨inside, digits, read⟩ |
    ⟨inside, others, read⟩
  · rw [read]
    simp [outside, Nat.not_le.2 outside, eq_comm]
  · rw [read]
    simp [digits, Nat.not_lt.2 inside]
  · rw [read]
    simp [others, inside, Nat.not_lt.2 inside, eq_comm]

/-! ## Reading points -/

/-- A value within the limit of its sign is a point. -/
theorem toInt_ofInt_apply {sign : Sign} {value : Nat} (within : value ≤ sign.limit) :
    (Int64.ofInt (sign.apply value)).toInt = sign.apply value := by
  cases sign with
  | plus =>
    have bound : value ≤ 0x7FFFFFFFFFFFFFFF := within
    rw [Sign.apply]
    exact Int64.toInt_ofInt_of_le (by omega) (by omega)
  | minus =>
    have bound : value ≤ 0x8000000000000000 := within
    rw [Sign.apply]
    exact Int64.toInt_ofInt_of_le (by omega) (by omega)

/-- A point of a sign is within the limit of the sign. -/
theorem le_limit_of_toInt {sign : Sign} {value : Nat} {point : Int64}
    (is_value : point.toInt = sign.apply value) : value ≤ sign.limit := by
  have least := point.le_toInt
  have greatest := point.toInt_lt
  cases sign with
  | plus =>
    rw [Sign.apply] at is_value
    rw [Sign.limit]
    omega
  | minus =>
    rw [Sign.apply] at is_value
    rw [Sign.limit]
    omega

/-- The reader takes the sign off and then reads digits. -/
theorem integer_eq_ok_iff {chars : List Char} {value : Int} :
    integer chars = .ok value ↔
      ∃ sign mark digits, Sign.Marks sign mark ∧ chars = mark ++ digits ∧
        signed sign digits = .ok value := by
  constructor
  · intro read
    unfold integer at read
    split at read
    · exact absurd read (by simp)
    · next digits => exact ⟨.plus, ['+'], digits, .plus, rfl, read⟩
    · next digits => exact ⟨.minus, ['-'], digits, .minus, rfl, read⟩
    · exact ⟨.plus, [], chars, .none, rfl, read⟩
  · rintro ⟨sign, mark, digits, marks, rfl, read⟩
    cases marks with
    | plus => exact read
    | minus => exact read
    | none =>
      -- the first character is a digit, so it is not taken for a sign
      obtain ⟨⟨nonempty, each⟩, -⟩ := signed_eq_ok_iff.1 read
      rw [List.nil_append]
      unfold integer
      split
      · exact absurd rfl nonempty
      · exact absurd (each '+' List.mem_cons_self) (by decide)
      · exact absurd (each '-' List.mem_cons_self) (by decide)
      · exact read

/-- The reader takes exactly the texts that spell a point, and reads that point. -/
theorem ofString_eq_ok_iff {text : String} {point : Int64} :
    ofString text = .ok point ↔ Spells text point := by
  constructor
  · intro read
    cases found : integer text.toList with
    | error defect => exact absurd read (by simp [ofString, found, Except.map])
    | ok value =>
      obtain rfl : Int64.ofInt value = point := by simpa [ofString, found, Except.map] using read
      obtain ⟨sign, mark, digits, marks, split, signed⟩ := integer_eq_ok_iff.1 found
      obtain ⟨are_digits, within, rfl⟩ := signed_eq_ok_iff.1 signed
      exact ⟨sign, mark, digits, marks, are_digits, split, toInt_ofInt_apply within⟩
  · rintro ⟨sign, mark, digits, marks, are_digits, split, is_value⟩
    have within := le_limit_of_toInt is_value
    have read : signed sign digits = .ok point.toInt :=
      signed_eq_ok_iff.2 ⟨are_digits, within, is_value⟩
    rw [ofString, integer_eq_ok_iff.2 ⟨sign, mark, digits, marks, split, read⟩, Except.map,
      Int64.ofInt_toInt]

/-- The text `--` spells no point. -/
theorem Spells.ne_hyphens {text : String} {point : Int64} (spelled : Spells text point) :
    text ≠ "--" := by
  rintro rfl
  have read : ofString "--" = .error .notADigit := rfl
  rw [ofString_eq_ok_iff.2 spelled] at read
  exact absurd read (by simp)

/-- A text that spells no point has a defect. -/
theorem exists_defect {text : String} (none_spelled : ¬ ∃ point, Spells text point) :
    ∃ defect, ofString text = .error defect := by
  cases read : ofString text with
  | error defect => exact ⟨defect, rfl⟩
  | ok point => exact absurd ⟨point, ofString_eq_ok_iff.1 read⟩ none_spelled

end CodeChart.Point
