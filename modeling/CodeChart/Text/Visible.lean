/-!
# Visible text

A text that came from outside can hold controls and control sequences, which a terminal obeys
instead of showing them.  `visible` is the text without them: characters and layout (tab, line feed,
form feed, carriage return) stay, all other controls go, and so does every sequence from its escape
character to its last character, or to the end of the text if it breaks off.

A sequence is an escape character, intermediate characters and a final character; `[` opens a
control sequence with parameters, `]` an operating system command, and `P`, `X`, `^` and `_` open
strings that end with a terminator.  The reader is a machine whose states are the parts of a
sequence.  A layout character inside a sequence that is no string breaks the sequence off and stays;
an escape character starts a new sequence anywhere.
-/

namespace CodeChart.Text

namespace Visible

/-- The part of a sequence in which the reader stands. -/
inductive State where
  /-- In no sequence. -/
  | plain
  /-- Behind the escape character. -/
  | escape
  /-- Behind an intermediate character of an escape sequence. -/
  | intermediate
  /-- In a control sequence, before its final character. -/
  | control
  /-- At the start of a device control string. -/
  | device
  /-- In the parameters of a device control string. -/
  | deviceParameters
  /-- Behind an intermediate character of a device control string. -/
  | deviceIntermediate
  /-- In a string that ends with the terminator. -/
  | string
  /-- In an operating system command, which ends with a bell. -/
  | command
  deriving DecidableEq

/-- A control that only lays the text out. -/
def isLayout (c : Char) : Bool :=
  c = '\t' || c = '\n' || c = '\x0c' || c = '\r'

/-- A control of ASCII, or a delete. -/
def isControl (c : Char) : Bool :=
  c < ' ' || c = '\x7f'

/-- A character that ends a string: the terminator is looked for among the bytes of the text, so
every character with that byte ends it. -/
def terminates (c : Char) : Bool :=
  (String.utf8EncodeChar c).contains 0x9C

/-- The state after a character behind the escape character. -/
def afterEscape (c : Char) : State :=
  if ' ' ≤ c ∧ c ≤ '/' then .intermediate
  else if c = '[' then .control
  else if c = ']' then .command
  else if c = 'P' then .device
  else if c = 'X' ∨ c = '^' ∨ c = '_' then .string
  else if '0' ≤ c ∧ c ≤ '~' then .plain
  else .escape

/-- The state after a character in a device control string, before the string proper. -/
def afterDevice (state : State) (c : Char) : State :=
  if ' ' ≤ c ∧ c ≤ '/' then .deviceIntermediate
  else if '@' ≤ c ∧ c ≤ '~' then .string
  else if '0' ≤ c ∧ c ≤ '?' then
    match state with
    | .device => .deviceParameters
    | .deviceParameters => if c ≤ ';' then .deviceParameters else .string
    | _ => .string
  else state

/-- The state after a character that is neither shown nor an escape character. -/
def next (state : State) (c : Char) : State :=
  match state with
  | .plain => .plain
  | .escape => afterEscape c
  | .intermediate => if '0' ≤ c ∧ c ≤ '~' then .plain else .intermediate
  | .control => if '@' ≤ c ∧ c ≤ '~' then .plain else .control
  | .device | .deviceParameters | .deviceIntermediate => afterDevice state c
  | .string => if terminates c then .plain else .string
  | .command => if c = '\x07' then .plain else .command

/-- Whether a character is shown in a state: outside sequences, every character that is no control;
and layout, except in strings. -/
def shows (state : State) (c : Char) : Bool :=
  match state with
  | .plain => !isControl c || isLayout c
  | .escape | .intermediate | .control => isLayout c
  | .device | .deviceParameters | .deviceIntermediate | .string | .command => false

/-- The state after a character.  Cancel and substitute break off every sequence. -/
def step (state : State) (c : Char) : State :=
  if c = '\x1b' then .escape
  else if c = '\x18' ∨ c = '\x1a' ∨ shows state c then .plain
  else next state c

/-- What has been read: the visible text so far, and the state. -/
structure Reading where
  /-- The visible text so far. -/
  text : String
  /-- The state after the characters read so far. -/
  state : State

/-- Reads one more character. -/
def Reading.feed (reading : Reading) (c : Char) : Reading :=
  ⟨if shows reading.state c then reading.text.push c else reading.text, step reading.state c⟩

end Visible

/-- The text without controls and control sequences. -/
def visible (text : String) : String :=
  (text.toList.foldl Visible.Reading.feed ⟨"", .plain⟩).text

end CodeChart.Text
