import CodeChart.Sink

/-!
# Buffered devices

A buffer in front of a device holds pieces until the next one does not fit.  Then what it holds goes
to the device, and the piece takes its place; a piece that fills the buffer by itself goes straight
to the device.  `flush` hands over what is still held.

The bytes received and the bytes held are together the bytes taken, in order: `taken` is the view
through which the operations are seen.
-/

namespace CodeChart

/-- A device with a buffer in front of it. -/
structure Buffered where
  /-- The bytes that the device has not been given yet. -/
  held : ByteArray
  /-- The device. -/
  device : Device

namespace Buffered

/-- The number of bytes that the buffer can hold. -/
def capacity : Nat := 8192

/-- An empty buffer in front of a device. -/
def new (device : Device) : Buffered :=
  ⟨.empty, device⟩

/-- The bytes taken so far. -/
def taken (buffered : Buffered) : ByteArray :=
  buffered.device.received ++ buffered.held

/-- Gives a piece to the device, past the buffer. -/
def send (piece : ByteArray) : EStateM Refusal Buffered Unit
  | ⟨held, device⟩ =>
    match Device.write piece device with
    | .ok () device => .ok () ⟨held, device⟩
    | .error refusal device => .error refusal ⟨held, device⟩

/-- Gives the device what is held.  If the device refuses it, it stays held. -/
def flush : EStateM Refusal Buffered Unit
  | ⟨held, device⟩ =>
    match Device.write held device with
    | .ok () device => .ok () ⟨.empty, device⟩
    | .error refusal device => .error refusal ⟨held, device⟩

/-- Puts a piece behind what is held. -/
def hold (piece : ByteArray) : EStateM Refusal Buffered Unit
  | ⟨held, device⟩ => .ok () ⟨held ++ piece, device⟩

/-- Puts a piece into the buffer, or past it if the piece fills the buffer by itself. -/
def place (piece : ByteArray) : EStateM Refusal Buffered Unit :=
  if piece.size < capacity then hold piece else send piece

/-- Takes a piece.  If it does not fit behind what is held, the device is given that first. -/
def write (piece : ByteArray) : EStateM Refusal Buffered Unit
  | ⟨held, device⟩ =>
    if held.size + piece.size ≤ capacity then place piece ⟨held, device⟩
    else EStateM.bind flush (fun _ => place piece) ⟨held, device⟩

instance : Sink Buffered := ⟨write⟩

/-! ## What has been taken -/

/-- In front of a device with space, placing a piece in an empty buffer takes exactly the piece. -/
theorem place_open (piece received : ByteArray) :
    ∃ after, place piece ⟨.empty, ⟨false, received⟩⟩ = .ok () after ∧
      after.device.full = false ∧ after.held.size ≤ capacity ∧
      after.taken = received ++ piece := by
  by_cases small : piece.size < capacity
  · rw [place, if_pos small]
    refine ⟨⟨.empty ++ piece, ⟨false, received⟩⟩, rfl, rfl, ?_, ?_⟩
    · simpa using Nat.le_of_lt small
    · simp [taken]
  · rw [place, if_neg small]
    exact ⟨⟨.empty, ⟨false, received ++ piece⟩⟩, rfl, rfl, Nat.zero_le _, by simp [taken]⟩

/-- In front of a device with space, writing takes exactly the piece. -/
theorem write_open (piece held received : ByteArray) (bounded : held.size ≤ capacity) :
    ∃ after, write piece ⟨held, ⟨false, received⟩⟩ = .ok () after ∧ after.device.full = false ∧
      after.held.size ≤ capacity ∧ after.taken = received ++ held ++ piece := by
  by_cases fits : held.size + piece.size ≤ capacity
  · rw [write, if_pos fits, place]
    by_cases small : piece.size < capacity
    · rw [if_pos small]
      refine ⟨⟨held ++ piece, ⟨false, received⟩⟩, rfl, rfl, ?_, ?_⟩
      · simpa [ByteArray.size_append] using fits
      · simp [taken, ByteArray.append_assoc]
    · have nothing : held = .empty := ByteArray.size_eq_zero_iff.1 (by omega)
      rw [if_neg small]
      exact ⟨⟨held, ⟨false, received ++ piece⟩⟩, rfl, rfl, bounded, by simp [taken, nothing]⟩
  · rw [write, if_neg fits]
    exact place_open piece (received ++ held)

end Buffered

end CodeChart
