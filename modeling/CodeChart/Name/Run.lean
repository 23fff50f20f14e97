/-!
# Runs of names

Characters with consecutive codes often have names that begin alike.  A run holds the common stem
once and then the tails, one for each code, with a comma between two of them.
-/

namespace CodeChart.Name

/-- The names of consecutive codes. -/
structure Run where
  /-- The code of the first name. -/
  first : Nat
  /-- What the names have in common. -/
  stem : String
  /-- What follows the stem in each name, joined by commas and cut into lines of any length. -/
  tails : List String

namespace Run

/-- The item at a position of a list of items joined by commas. -/
def item? : Nat → List Char → Option (List Char)
  | 0, cs => some (cs.takeWhile (· ≠ ','))
  | _ + 1, [] => none
  | position + 1, c :: rest =>
    if c = ',' then item? position rest else item? (position + 1) rest

/-- The name of the run at a code, `none` before the run and after it. -/
def spelling? (run : Run) (code : Nat) : Option String := do
  guard (run.first ≤ code)
  let tail ← item? (code - run.first) (run.tails.flatMap String.toList)
  return run.stem ++ String.ofList tail

end Run

end CodeChart.Name
