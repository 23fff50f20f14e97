import CodeChart.Catalogue
import CodeChart.Point
import CodeChart.Sink
import CodeChart.Text.Escape
import CodeChart.Text.Literal
import CodeChart.Text.Visible

/-!
# Usage and faults

What the program says about itself, what can go wrong between the command line and the last line of
the chart, and how it is said.  A token is quoted in the message with escapes, so that no token can
be mistaken for another or for a part of the message.
-/

namespace CodeChart

namespace Usage

/-- The name of the program. -/
def name : String := "unidump"

/-- The version of the program. -/
def version : String := "0.1.0"

/-- What the program does. -/
def about : String :=
  "Print the Unicode name and general category of each code point in a range"

/-- What is said when there are not two points. -/
def message : String := "Start and end points are required"

/-- How a program of this name is called. -/
def line (program : String) : String :=
  "Usage: " ++ program ++ " [POINT]..."

end Usage

/-- Why the tokens of a command line are not read. -/
inductive Rejection where
  /-- A token is not UTF-8. -/
  | notUtf8
  /-- The first token looks like a flag whose name is not UTF-8; the name as it can be shown. -/
  | unknownFlag (flag : String)
  deriving DecidableEq

namespace Rejection

/-- The rejection in words, with the way to call a program.  A rejection speaks to a terminal, so of
the names in it only what is visible is told. -/
def message (program : String) (rejection : Rejection) : String :=
  let usage := "\n\n" ++ Usage.line (Text.visible program) ++ "\n"
  match rejection with
  | notUtf8 => "error: invalid UTF-8 was detected in one or more arguments" ++ usage
  | unknownFlag flag =>
    let flag := Text.visible flag
    "error: unexpected argument '" ++ flag ++ "' found\n\n  tip: to pass '" ++ flag
      ++ "' as a value, use '-- " ++ flag ++ "'" ++ usage

end Rejection

/-- Why a chart is not made, or not made to its end. -/
inductive Fault where
  /-- There are not two points; how many there are. -/
  | notTwoPoints (given : Nat)
  /-- A token is not a point. -/
  | unreadable (token : String) (defect : Point.Defect)
  /-- A point has no entry. -/
  | noEntry (absent : NoEntry)
  /-- The sink refused a piece. -/
  | unwritten (refusal : Refusal)
  /-- The tokens given to a program of this name are not read. -/
  | rejected (program : String) (rejection : Rejection)
  deriving DecidableEq

namespace Fault

/-- The fault in words, with a set of characters that a quoted token shows as themselves. -/
def messageWith (literal : Char → Bool) : Fault → String
  | notTwoPoints given =>
    Usage.message ++ " (got " ++ Text.Decimal.text given ++ " arguments)"
  | unreadable token defect =>
    "invalid code point " ++ Text.Escape.quoted literal token ++ ": " ++ defect.message
  | noEntry absent =>
    "code point " ++ Text.Decimal.text absent.point.toInt ++ " is outside 0..=0x10FFFF"
  | unwritten refusal => "failed to write output: " ++ refusal.message
  | rejected program rejection => rejection.message program

/-- The fault in words. -/
def message : Fault → String :=
  messageWith Text.isLiteral

end Fault

end CodeChart
