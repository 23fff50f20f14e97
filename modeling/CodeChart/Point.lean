/-!
# Reading a point

A point is written as an optional sign and then decimal digits, with nothing before, between or
after, and it lies in the range of a signed 64-bit word.  The text is read from left to right and
the first defect is reported: a character that is no digit, or a digit that takes the value out of
the range.
-/

namespace CodeChart.Point

/-- Why a text is not a point. -/
inductive Defect where
  /-- There is no text. -/
  | empty
  /-- A character is no digit, or a sign stands alone. -/
  | notADigit
  /-- The value is above the greatest point. -/
  | aboveMax
  /-- The value is below the least point. -/
  | belowMin
  deriving DecidableEq

namespace Defect

/-- The defect in words. -/
def message : Defect → String
  | empty => "cannot parse integer from empty string"
  | notADigit => "invalid digit found in string"
  | aboveMax => "number too large to fit in target type"
  | belowMin => "number too small to fit in target type"

end Defect

/-- The sign of a numeral. -/
inductive Sign where
  /-- The value counts up from zero. -/
  | plus
  /-- The value counts down from zero. -/
  | minus
  deriving DecidableEq

namespace Sign

/-- The greatest distance from zero that a point of this sign has. -/
def limit : Sign → Nat
  | plus => 0x7FFFFFFFFFFFFFFF
  | minus => 0x8000000000000000

/-- The defect of a numeral that goes beyond the limit. -/
def overflow : Sign → Defect
  | plus => .aboveMax
  | minus => .belowMin

/-- The number at a distance from zero. -/
def apply (sign : Sign) (distance : Nat) : Int :=
  match sign with
  | plus => distance
  | minus => -distance

end Sign

/-- The value of a digit, `none` for any other character. -/
def digit? (c : Char) : Option Nat :=
  if c.isDigit then some (c.toNat - '0'.toNat) else none

/-- Reads digits to the end, onto the value of those before them.  The value stays within the limit
of the sign. -/
def distance (sign : Sign) : List Char → Nat → Except Defect Nat
  | [], value => .ok value
  | c :: rest, value =>
    match digit? c with
    | none => .error .notADigit
    | some digit =>
      if 10 * value + digit ≤ sign.limit then distance sign rest (10 * value + digit)
      else .error sign.overflow

/-- Reads the digits after a sign; there has to be one. -/
def signed (sign : Sign) : List Char → Except Defect Int
  | [] => .error .notADigit
  | digits => (distance sign digits 0).map sign.apply

/-- Reads a numeral as an integer in the range of points. -/
def integer : List Char → Except Defect Int
  | [] => .error .empty
  | '+' :: digits => signed .plus digits
  | '-' :: digits => signed .minus digits
  | digits => signed .plus digits

/-- Reads a point. -/
def ofString (text : String) : Except Defect Int64 :=
  (integer text.toList).map Int64.ofInt

end CodeChart.Point
