/-!
# Numerals

Points, counts and statuses are written in base ten: no leading zero, and a minus sign in front of a
negative number.  Codes are written in base sixteen: in upper case after `U+`, padded to four
digits, and in lower case inside an escape, without padding.
-/

namespace CodeChart.Text

namespace Decimal

/-- The numeral of a natural number. -/
def natural (n : Nat) : List Char :=
  Nat.toDigits 10 n

/-- The numeral of an integer. -/
def integer (i : Int) : List Char :=
  if i < 0 then '-' :: natural i.natAbs else natural i.natAbs

/-- The numeral of an integer as a text. -/
def text (i : Int) : String :=
  String.ofList (integer i)

end Decimal

namespace Hex

/-- The numeral in lower case, with no leading zero. -/
def lower (n : Nat) : List Char :=
  Nat.toDigits 16 n

/-- The numeral in upper case, with no leading zero. -/
def upper (n : Nat) : List Char :=
  (Nat.toDigits 16 n).map Char.toUpper

/-- The numeral in upper case, filled with zeros in front to at least four digits. -/
def padded (n : Nat) : List Char :=
  (upper n).leftpad 4 '0'

/-- Padding reaches four digits and never cuts. -/
theorem length_padded (n : Nat) : (padded n).length = max 4 (Nat.toDigits 16 n).length := by
  simp only [padded, upper, List.length_leftpad, List.length_map]

end Hex

end CodeChart.Text
