import CodeChart.Proofs.Text.Hex
import CodeChart.Text.Escape

/-!
# Reading escapes

The reader is a machine that goes over a text character by character: it stands in plain text,
behind a backslash, behind `\u`, or between the braces of an escape by code.  `unescape?` gives the
codes that a whole text stands for.  A text stands for codes and not for characters, since an escape
can name a code that no character has.

`feed?_code` and `feed?_character` say that the reader comes back to plain text with exactly the
code that was written, for every code and whichever characters are literal.
-/

namespace CodeChart.Text.Escape

/-- The character that a letter behind a backslash stands for. -/
def ofLetter? : Char → Option Char
  | '0' => some '\x00'
  | 't' => some '\t'
  | 'n' => some '\n'
  | 'r' => some '\r'
  | '\\' => some '\\'
  | '"' => some '"'
  | '\'' => some '\''
  | _ => none

/-- Where the reader stands. -/
inductive Reader where
  /-- In plain text. -/
  | plain
  /-- Behind a backslash. -/
  | backslash
  /-- Behind `\u`. -/
  | brace
  /-- In the digits of a code, with the value of those read, if there are any. -/
  | digits (value? : Option Nat)
  deriving DecidableEq

namespace Reader

/-- Reads a character: the code that ends with it, if one does, and where the reader stands then. -/
def step? : Reader → Char → Option (Option Nat × Reader)
  | plain, c => if c = '\\' then some (none, backslash) else some (some c.toNat, plain)
  | backslash, c =>
    if c = 'u' then some (none, brace)
    else (ofLetter? c).map fun meant => (some meant.toNat, plain)
  | brace, c => if c = '\x7b' then some (none, digits none) else none
  | digits value?, c =>
    if c = '\x7d' then value?.map fun value => (some value, plain)
    else (Hex.digit? 'a' c).map fun digit => (none, digits (some (16 * value?.getD 0 + digit)))

/-- Reads characters: the codes that end in them, and where the reader stands then. -/
def feed? : Reader → List Char → Option (List Nat × Reader)
  | reader, [] => some ([], reader)
  | reader, c :: rest => do
    let (code?, next) ← reader.step? c
    let (codes, last) ← next.feed? rest
    return (code?.toList ++ codes, last)

theorem feed?_cons {reader next last : Reader} {c : Char} {rest : List Char} {code? : Option Nat}
    {codes : List Nat} (first : reader.step? c = some (code?, next))
    (further : next.feed? rest = some (codes, last)) :
    reader.feed? (c :: rest) = some (code?.toList ++ codes, last) := by
  simp only [feed?, first, further, Option.bind_eq_bind, Option.bind_some, Option.pure_def]

theorem feed?_singleton {reader next : Reader} {c : Char} {code? : Option Nat}
    (first : reader.step? c = some (code?, next)) :
    reader.feed? [c] = some (code?.toList, next) := by
  rw [feed?_cons first rfl, List.append_nil]

/-- Characters are read in parts, one behind the other. -/
theorem feed?_append {reader next last : Reader} {text more : List Char} {codes codes' : List Nat}
    (first : reader.feed? text = some (codes, next))
    (further : next.feed? more = some (codes', last)) :
    reader.feed? (text ++ more) = some (codes ++ codes', last) := by
  induction text generalizing reader codes with
  | nil =>
    obtain ⟨rfl, rfl⟩ := Prod.mk.inj (Option.some.inj first)
    exact further
  | cons c rest ih =>
    simp only [feed?, Option.bind_eq_bind, Option.bind_eq_some_iff, Option.pure_def] at first
    obtain ⟨⟨code?, between⟩, step, ⟨read, stand⟩, fed, eq⟩ := first
    obtain ⟨rfl, rfl⟩ := Prod.mk.inj (Option.some.inj eq)
    rw [List.append_assoc]
    exact feed?_cons step (ih fed)

/-- A digit is read as a digit. -/
theorem step?_digits {value? : Option Nat} {c : Char} {digit : Nat}
    (isDigit : Hex.digit? 'a' c = some digit) :
    (digits value?).step? c = some (none, digits (some (16 * value?.getD 0 + digit))) := by
  -- the brace that closes the escape is no digit
  have ne : c ≠ '\x7d' := by
    rintro rfl
    have none_digit : Hex.digit? 'a' '\x7d' = none := by decide
    rw [none_digit] at isDigit
    exact absurd isDigit (by simp)
  rw [step?, if_neg ne, isDigit, Option.map_some]

/-- The digits of a code are read as a numeral. -/
theorem feed?_digits {value : Nat} {numeral : List Char} {read : Nat}
    (reads : Hex.readFrom? 'a' value numeral = some read) :
    (digits (some value)).feed? numeral = some ([], digits (some read)) := by
  induction numeral generalizing value with
  | nil =>
    obtain rfl : value = read := Option.some.inj reads
    rfl
  | cons c rest ih =>
    rw [Hex.readFrom?] at reads
    split at reads
    · next digit isDigit => exact feed?_cons (step?_digits isDigit) (ih reads)
    · exact absurd reads (by simp)

/-- A numeral between the braces is read to its value. -/
theorem feed?_numeral {numeral : List Char} {read : Nat}
    (reads : Hex.read? 'a' numeral = some read) :
    (digits none).feed? numeral = some ([], digits (some read)) := by
  cases numeral with
  | nil => exact absurd reads (by simp [Hex.read?])
  | cons c rest =>
    rw [Hex.read?_of_ne_nil (List.cons_ne_nil c rest), Hex.readFrom?] at reads
    split at reads
    · next digit isDigit => exact feed?_cons (step?_digits isDigit) (feed?_digits reads)
    · exact absurd reads (by simp)

/-- An escape by code is read to that code. -/
theorem feed?_code (n : Nat) : plain.feed? (code n) = some ([n], plain) := by
  have opened : plain.feed? ['\\', 'u', '\x7b'] = some ([], digits none) := by decide
  have closed : (digits (some n)).feed? ['\x7d'] = some ([n], plain) := rfl
  exact feed?_append (feed?_append opened (feed?_numeral (Hex.read?_lower n))) closed

/-- The letter of an escape stands for the character that was written. -/
theorem ofLetter?_of_letter? {c letter : Char} (h : letter? c = some letter) :
    ofLetter? letter = some c := by
  unfold letter? at h
  split at h <;> cases h <;> rfl

/-- An escaped character is read to its code, whichever characters are literal. -/
theorem feed?_character (literal : Char → Bool) (c : Char) :
    plain.feed? (character literal c) = some ([c.toNat], plain) := by
  unfold character
  split
  · next letter found =>
    have meant := ofLetter?_of_letter? found
    have ne : letter ≠ 'u' := by
      rintro rfl
      exact absurd meant (by simp [ofLetter?])
    have behind : backslash.step? letter = some (some c.toNat, plain) := by
      rw [step?, if_neg ne, meant, Option.map_some]
    have started : plain.step? '\\' = some (none, backslash) := rfl
    exact feed?_cons started (feed?_singleton behind)
  · next none_found =>
    -- a backslash has an escape letter, so it is not put as itself
    have ne : c ≠ '\\' := by
      rintro rfl
      exact absurd none_found (by decide)
    split
    · have itself : plain.step? c = some (some c.toNat, plain) := by rw [step?, if_neg ne]
      exact feed?_singleton itself
    · exact feed?_code c.toNat

end Reader

/-- The codes that a text with escapes stands for. -/
def unescape? (text : List Char) : Option (List Nat) :=
  match Reader.plain.feed? text with
  | some (codes, .plain) => some codes
  | _ => none

theorem unescape?_of_feed? {text : List Char} {codes : List Nat}
    (fed : Reader.plain.feed? text = some (codes, .plain)) : unescape? text = some codes := by
  simp only [unescape?, fed]

end CodeChart.Text.Escape
