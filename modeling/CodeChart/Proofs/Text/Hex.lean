import CodeChart.Text.Numeral

/-!
# Reading hexadecimal numerals

`digit?` and `read?` read numerals of one letter case, told by the letter for ten.  A lower-case
numeral reads back to its number (`read?_lower`), and so does a padded one, which is in upper case
(`read?_padded`) and has a zero in front only if it has four digits (`head?_padded`).
-/

namespace CodeChart.Text.Hex

/-- The value of a digit, where the digits from ten on are the letters from `ten` on. -/
def digit? (ten c : Char) : Option Nat :=
  if '0' ≤ c ∧ c ≤ '9' then some (c.toNat - '0'.toNat)
  else if ten.toNat ≤ c.toNat ∧ c.toNat < ten.toNat + 6 then some (c.toNat - ten.toNat + 10)
  else none

/-- The value of the digits, onto the value of those before them. -/
def readFrom? (ten : Char) : (value : Nat) → List Char → Option Nat
  | value, [] => some value
  | value, c :: rest =>
    match digit? ten c with
    | some digit => readFrom? ten (16 * value + digit) rest
    | none => none

/-- The value of a numeral, `none` if a character is no digit or if there is none. -/
def read? (ten : Char) : List Char → Option Nat
  | [] => none
  | digits => readFrom? ten 0 digits

/-! ## Single digits -/

theorem digit?_lower {d : Nat} (lt : d < 16) : digit? 'a' d.digitChar = some d := by
  revert d
  decide

theorem digit?_upper {d : Nat} (lt : d < 16) : digit? 'A' d.digitChar.toUpper = some d := by
  revert d
  decide

/-! ## Numerals -/

/-- Digits are read in parts, one behind the other. -/
theorem readFrom?_append (ten : Char) (value : Nat) (digits more : List Char) :
    readFrom? ten value (digits ++ more) =
      (readFrom? ten value digits).bind fun read => readFrom? ten read more := by
  induction digits generalizing value with
  | nil => rfl
  | cons c rest ih =>
    rw [List.cons_append, readFrom?, readFrom?]
    cases digit? ten c with
    | some digit => exact ih _
    | none => rfl

/-- Zeros in front do not count. -/
theorem readFrom?_replicate_zero (ten : Char) (count : Nat) (digits : List Char) :
    readFrom? ten 0 (List.replicate count '0' ++ digits) = readFrom? ten 0 digits := by
  induction count with
  | zero => rfl
  | succ count ih => exact ih

/-- The digits of a number read back to it, if they do so one by one in the case they are put in. -/
theorem readFrom?_toDigits (ten : Char) (case : Char → Char)
    (single : ∀ d < 16, digit? ten (case d.digitChar) = some d) (n : Nat) :
    readFrom? ten 0 ((Nat.toDigits 16 n).map case) = some n := by
  induction n using Nat.strongRecOn with
  | ind n ih =>
    by_cases small : n < 16
    · rw [Nat.toDigits_of_lt_base small]
      simp only [List.map_cons, List.map_nil, readFrom?, single n small]
      rw [Nat.mul_zero, Nat.zero_add]
    -- all digits but the last are those of `n / 16`
    · have digits := Nat.toDigits_of_base_le (b := 16) (by decide) (Nat.le_of_not_lt small)
      rw [digits, List.map_append, readFrom?_append, ih (n / 16) (by omega)]
      simp only [List.map_cons, List.map_nil, Option.bind_some, readFrom?,
        single (n % 16) (Nat.mod_lt n (by decide))]
      rw [Nat.div_add_mod]

theorem read?_of_ne_nil {ten : Char} {digits : List Char} (ne : digits ≠ []) :
    read? ten digits = readFrom? ten 0 digits := by
  cases digits with
  | nil => exact absurd rfl ne
  | cons c rest => rfl

@[simp] theorem read?_lower (n : Nat) : read? 'a' (lower n) = some n := by
  have same : lower n = (Nat.toDigits 16 n).map id := by rw [List.map_id, lower]
  have ne : lower n ≠ [] := Nat.toDigits_ne_nil
  rw [read?_of_ne_nil ne, same]
  exact readFrom?_toDigits 'a' id (fun _ lt => digit?_lower lt) n

theorem readFrom?_upper (n : Nat) : readFrom? 'A' 0 (upper n) = some n :=
  readFrom?_toDigits 'A' Char.toUpper (fun _ lt => digit?_upper lt) n

@[simp] theorem read?_padded (n : Nat) : read? 'A' (padded n) = some n := by
  have ne : padded n ≠ [] := by
    intro eq
    have length := length_padded n
    rw [eq, List.length_nil] at length
    omega
  rw [read?_of_ne_nil ne, padded, List.leftpad, readFrom?_replicate_zero, readFrom?_upper]

/-! ## Zeros in front -/

/-- The digits of a positive number do not begin with a zero, if no digit but zero is put as one. -/
theorem head?_map_toDigits_ne_zero (case : Char → Char)
    (single : ∀ d < 16, 0 < d → case d.digitChar ≠ '0') {n : Nat} (positive : 0 < n) :
    ((Nat.toDigits 16 n).map case).head? ≠ some '0' := by
  induction n using Nat.strongRecOn with
  | ind n ih =>
    by_cases small : n < 16
    · rw [Nat.toDigits_of_lt_base small, List.map_cons, List.head?_cons, ne_eq, Option.some.injEq]
      exact single n small positive
    -- the first digit is that of `n / 16`
    · have ne : Nat.toDigits 16 (n / 16) ≠ [] := Nat.toDigits_ne_nil
      obtain ⟨c, rest, digits⟩ := List.exists_cons_of_ne_nil ne
      have first := ih (n / 16) (by omega) (by omega)
      rw [digits, List.map_cons, List.head?_cons] at first
      rw [Nat.toDigits_of_base_le (by decide) (Nat.le_of_not_lt small), digits, List.cons_append,
        List.map_cons, List.head?_cons]
      exact first

/-- A padded numeral of more than four digits has no zero in front. -/
theorem head?_padded {n : Nat} (long : 4 < (padded n).length) : (padded n).head? ≠ some '0' := by
  rw [length_padded] at long
  have longer : 4 < (Nat.toDigits 16 n).length := by omega
  have unpadded : padded n = upper n := by
    have none_missing : 4 - (upper n).length = 0 := by
      rw [upper, List.length_map]
      omega
    rw [padded, List.leftpad, none_missing, List.replicate_zero, List.nil_append]
  have positive : 0 < n := by
    refine Nat.pos_of_ne_zero fun zero => ?_
    rw [zero, Nat.toDigits_zero, List.length_singleton] at longer
    omega
  rw [unpadded]
  exact head?_map_toDigits_ne_zero Char.toUpper (by decide) positive

end CodeChart.Text.Hex
