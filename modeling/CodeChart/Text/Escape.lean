import CodeChart.Text.Numeral

/-!
# Escapes

A character is written as itself, as a backslash and a letter, or as `\u` and its code in braces.
Which characters stand for themselves is a parameter: a set of literal characters.  `character`
writes one character; `quoted` writes a text between double quotes, where a single quote needs no
backslash.
-/

namespace CodeChart.Text.Escape

/-- The escape by code, in lower case and without padding. -/
def code (n : Nat) : List Char :=
  ['\\', 'u', '\x7b'] ++ Hex.lower n ++ ['\x7d']

/-- The letter after the backslash, for the characters that have one. -/
def letter? : Char → Option Char
  | '\x00' => some '0'
  | '\t' => some 't'
  | '\n' => some 'n'
  | '\r' => some 'r'
  | '\\' => some '\\'
  | '"' => some '"'
  | '\'' => some '\''
  | _ => none

/-- One character: by its letter, as itself if it is literal, else by its code. -/
def character (literal : Char → Bool) (c : Char) : List Char :=
  match letter? c with
  | some letter => ['\\', letter]
  | none => if literal c then [c] else code c.toNat

/-- One character of a quoted text: a single quote stands for itself. -/
def inQuotes (literal : Char → Bool) (c : Char) : List Char :=
  if c = '\'' then [c] else character literal c

/-- A text between double quotes. -/
def quoted (literal : Char → Bool) (text : String) : String :=
  String.ofList (['"'] ++ text.toList.flatMap (inQuotes literal) ++ ['"'])

end CodeChart.Text.Escape
