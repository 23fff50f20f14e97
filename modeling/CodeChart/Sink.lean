/-!
# Sinks

A sink takes bytes piece by piece.  It takes a piece whole, or it refuses with a reason and may have
taken a first part of the piece; what it holds afterwards is known in both cases.

`Capture` keeps the bytes in memory, up to a limit if it has one.  `Device` takes every piece whole
or, when it is full, no byte at all.
-/

namespace CodeChart

/-- Why a sink did not take a piece. -/
inductive Refusal where
  /-- It took a part of the piece, and then no further byte. -/
  | cutShort
  /-- The device has no space. -/
  | noSpace
  deriving DecidableEq

namespace Refusal

/-- The reason in words. -/
def message : Refusal → String
  | cutShort => "failed to write whole buffer"
  | noSpace => "No space left on device (os error 28)"

end Refusal

/-- A place that takes bytes.  Refusing a piece also ends in a state of the place. -/
class Sink (σ : Type) where
  /-- Takes a piece. -/
  write : ByteArray → EStateM Refusal σ Unit

/-! ## Captures -/

/-- The bytes taken so far, kept in memory. -/
structure Capture where
  /-- How many bytes it takes in all, `none` for any number. -/
  limit? : Option Nat
  /-- The bytes taken so far. -/
  bytes : ByteArray

namespace Capture

/-- Takes nothing yet. -/
def empty (limit? : Option Nat) : Capture :=
  ⟨limit?, .empty⟩

/-- Takes a piece that fits, else the part of it that fits. -/
def write (piece : ByteArray) : EStateM Refusal Capture Unit
  | ⟨none, bytes⟩ => .ok () ⟨none, bytes ++ piece⟩
  | ⟨some limit, bytes⟩ =>
    let room := limit - bytes.size
    if piece.size ≤ room then .ok () ⟨some limit, bytes ++ piece⟩
    else .error .cutShort ⟨some limit, bytes ++ piece.extract 0 room⟩

instance : Sink Capture := ⟨write⟩

/-- Without a limit every piece is taken. -/
@[simp] theorem write_unlimited (piece bytes : ByteArray) :
    write piece ⟨none, bytes⟩ = .ok () ⟨none, bytes ++ piece⟩ := rfl

/-- A piece that fits is taken whole. -/
theorem write_of_fits {piece bytes : ByteArray} {limit : Nat}
    (fits : piece.size ≤ limit - bytes.size) :
    write piece ⟨some limit, bytes⟩ = .ok () ⟨some limit, bytes ++ piece⟩ :=
  if_pos fits

/-- A piece that does not fit is taken up to the limit. -/
theorem write_of_exceeds {piece bytes : ByteArray} {limit : Nat}
    (exceeds : limit - bytes.size < piece.size) :
    write piece ⟨some limit, bytes⟩ =
      .error .cutShort ⟨some limit, bytes ++ piece.extract 0 (limit - bytes.size)⟩ :=
  if_neg (Nat.not_le_of_lt exceeds)

end Capture

/-! ## Devices -/

/-- A device and the bytes it has received. -/
structure Device where
  /-- A full device receives nothing more. -/
  full : Bool
  /-- The bytes received. -/
  received : ByteArray

namespace Device

/-- A device with nothing received yet. -/
def new (full : Bool) : Device :=
  ⟨full, .empty⟩

/-- Receives a piece whole, or nothing of it.  A piece without bytes asks for no space. -/
def write (piece : ByteArray) : EStateM Refusal Device Unit
  | ⟨full, received⟩ =>
    if full && piece.size ≠ 0 then .error .noSpace ⟨full, received⟩
    else .ok () ⟨full, received ++ piece⟩

/-- A full device refuses every piece with a byte in it. -/
theorem write_full {piece : ByteArray} (nonempty : piece.size ≠ 0) (received : ByteArray) :
    write piece ⟨true, received⟩ = .error .noSpace ⟨true, received⟩ := by
  simp [write, nonempty]

end Device

end CodeChart
