/-!
# Bytes shown as text

Bytes that are not UTF-8 can still be shown: every part that is no character is replaced by U+FFFD.
A part is as long as it could still have become a character, so a sequence that breaks off is one
part, and a byte that cannot begin or continue anything is a part of its own.

The reader is a machine with two kinds of states: between two characters, or inside one, with the
bytes it may go on with.  A byte that does not fit closes the part and is read again from between
two characters.
-/

namespace CodeChart.Text.Utf8

/-- Where the reader stands. -/
inductive State where
  /-- Between two characters. -/
  | between
  /-- Inside a character: the bits read so far, the least and the greatest byte it may go on with,
  and how many bytes are to follow that one. -/
  | inside (bits : Nat) (least greatest : UInt8) (more : Nat)

/-- The character shown for a part that is none. -/
def replacement : Char := '\uFFFD'

/-- Reads a byte between two characters.  The least and greatest second byte rule out the forms that
are too long, the surrogates and the codes above U+10FFFF. -/
def start (byte : UInt8) : List Char × State :=
  if byte < 0x80 then ([Char.ofNat byte.toNat], .between)
  else if byte < 0xC2 then ([replacement], .between)
  else if byte < 0xE0 then ([], .inside (byte.toNat % 0x20) 0x80 0xBF 0)
  else if byte = 0xE0 then ([], .inside 0x0 0xA0 0xBF 1)
  else if byte = 0xED then ([], .inside 0xD 0x80 0x9F 1)
  else if byte < 0xF0 then ([], .inside (byte.toNat % 0x10) 0x80 0xBF 1)
  else if byte = 0xF0 then ([], .inside 0x0 0x90 0xBF 2)
  else if byte < 0xF4 then ([], .inside (byte.toNat % 0x08) 0x80 0xBF 2)
  else if byte = 0xF4 then ([], .inside 0x4 0x80 0x8F 2)
  else ([replacement], .between)

/-- Reads a byte: what is shown now, and the state after it. -/
def step (state : State) (byte : UInt8) : List Char × State :=
  match state with
  | .between => start byte
  | .inside bits least greatest more =>
    if least ≤ byte ∧ byte ≤ greatest then
      let bits := bits * 0x40 + byte.toNat % 0x40
      match more with
      | 0 => ([Char.ofNat bits], .between)
      | more + 1 => ([], .inside bits 0x80 0xBF more)
    else
      let (shown, state) := start byte
      (replacement :: shown, state)

/-- What has been read: the text shown so far, and the state. -/
structure Reading where
  /-- The text shown so far. -/
  text : String
  /-- The state after the bytes read so far. -/
  state : State

namespace Reading

/-- Before the first byte. -/
def empty : Reading :=
  ⟨"", .between⟩

/-- Reads one more byte. -/
def feed (reading : Reading) (byte : UInt8) : Reading :=
  let (shown, state) := step reading.state byte
  ⟨reading.text ++ String.ofList shown, state⟩

/-- The text at the end of the bytes: a character that breaks off there is a part that is none. -/
def close (reading : Reading) : String :=
  match reading.state with
  | .between => reading.text
  | .inside .. => reading.text.push replacement

end Reading

/-- The bytes as text, with U+FFFD for every part that is no character. -/
def lossy (bytes : List UInt8) : String :=
  (bytes.foldl Reading.feed Reading.empty).close

end CodeChart.Text.Utf8
