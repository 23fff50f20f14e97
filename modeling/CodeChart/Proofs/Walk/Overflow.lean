import CodeChart.Proofs.Walk.Accepting

/-!
# Walks in front of a full device

A full device takes no byte, so what is written stays in the buffer until a piece does not fit
behind it.  Then the device is given what is held, and refuses it.

Whether it comes to this is a question of the number of bytes and not of the pieces.  If they fit
the buffer all of them are held and the device is not asked (`Work.perform_of_holds`), else some
piece is refused (`Work.perform_of_overflows`).  A piece that fills the buffer by itself goes
straight to the device, but a walk has no such piece unless its lines do not fit anyway, since the
end of a line is a piece of its own (`Walk.Survey.size_piece_lt`).
-/

namespace CodeChart

namespace Buffered

/-! ## One piece -/

/-- A piece that fits behind what is held, and does not fill the buffer, is held. -/
theorem write_of_holds {piece held : ByteArray} (small : piece.size < capacity)
    (fits : held.size + piece.size ≤ capacity) (device : Device) :
    write piece ⟨held, device⟩ = .ok () ⟨held ++ piece, device⟩ := by
  rw [write, if_pos fits, place, if_pos small]
  rfl

/-- A full device refuses a piece that is sent to it. -/
theorem send_full {piece : ByteArray} (nonempty : piece.size ≠ 0) (held received : ByteArray) :
    send piece ⟨held, ⟨true, received⟩⟩ = .error .noSpace ⟨held, ⟨true, received⟩⟩ := by
  rw [send, Device.write_full nonempty]

/-- A full device refuses what is held, if that is anything. -/
theorem flush_full {held : ByteArray} (nonempty : held.size ≠ 0) (received : ByteArray) :
    flush ⟨held, ⟨true, received⟩⟩ = .error .noSpace ⟨held, ⟨true, received⟩⟩ := by
  rw [flush, Device.write_full nonempty]

/-- If nothing is held there is nothing to hand over. -/
theorem flush_nothing (device : Device) : flush ⟨.empty, device⟩ = .ok () ⟨.empty, device⟩ := by
  simp [flush, Device.write]

/-- A device with space takes what is held. -/
theorem flush_spacious (held received : ByteArray) :
    flush ⟨held, ⟨false, received⟩⟩ = .ok () ⟨.empty, ⟨false, received ++ held⟩⟩ := rfl

/-- In front of a full device, a piece that does not fit behind what is held or that fills the
buffer by itself is refused. -/
theorem write_of_overflows {piece held : ByteArray} (bounded : held.size ≤ capacity)
    (unfit : capacity < held.size + piece.size ∨ capacity ≤ piece.size) (received : ByteArray) :
    ∃ kept, write piece ⟨held, ⟨true, received⟩⟩ = .error .noSpace ⟨kept, ⟨true, received⟩⟩ := by
  have some_room : 0 < capacity := by decide
  by_cases fits : held.size + piece.size ≤ capacity
  · have large : ¬ piece.size < capacity := by omega
    rw [write, if_pos fits, place, if_neg large]
    exact ⟨held, send_full (by omega) held received⟩
  · rw [write, if_neg fits]
    by_cases nothing : held.size = 0
    -- the device has nothing to refuse before it is given the piece
    · obtain rfl := ByteArray.size_eq_zero_iff.1 nothing
      have large : ¬ piece.size < capacity := by omega
      rw [EStateM.bind, flush_nothing]
      dsimp only
      rw [place, if_neg large]
      exact ⟨.empty, send_full (by omega) .empty received⟩
    · rw [EStateM.bind, flush_full nothing]
      exact ⟨held, rfl⟩

end Buffered

namespace Work

/-! ## Actions -/

/-- Actions whose text fits behind what is held are all performed, and the device is not asked, if
no piece fills the buffer by itself. -/
theorem perform_of_holds (actions : List Action) {held : ByteArray}
    (small : ∀ piece, .put piece ∈ actions → piece.toUTF8.size < Buffered.capacity)
    (fits : held.size + (Action.text actions).toUTF8.size ≤ Buffered.capacity) (device : Device)
    (journal : Journal) :
    perform actions ⟨(⟨held, device⟩ : Buffered), journal⟩ =
      .ok () ⟨⟨held ++ (Action.text actions).toUTF8, device⟩,
        (Action.records actions).foldl Journal.note journal⟩ := by
  induction actions generalizing held journal with
  | nil => simp [Action.text, Action.records]; rfl
  | cons action rest ih =>
    have small' : ∀ piece, .put piece ∈ rest → piece.toUTF8.size < Buffered.capacity :=
      fun piece mem => small piece (List.mem_cons_of_mem action mem)
    cases action with
    | note record =>
      rw [perform_note_cons]
      exact ih small' fits (journal.note record)
    | put piece =>
      rw [Action.toUTF8_text_put_cons, ByteArray.size_append] at fits
      have first : Sink.write piece.toUTF8 (⟨held, device⟩ : Buffered) = _ :=
        Buffered.write_of_holds (small piece List.mem_cons_self) (by omega) device
      have fits' : (held ++ piece.toUTF8).size + (Action.text rest).toUTF8.size ≤
          Buffered.capacity := by
        rw [ByteArray.size_append]
        omega
      rw [perform_put_cons, bind_of_ok (put_of_ok journal first), ih small' fits' journal,
        Action.toUTF8_text_put_cons, ByteArray.append_assoc]
      rfl

/-- Actions whose text does not fit behind what is held come to a piece that a full device refuses.
It is the first piece that does not fit, or one before it that fills the buffer by itself. -/
theorem perform_of_overflows (actions : List Action) {held : ByteArray}
    (bounded : held.size ≤ Buffered.capacity)
    (overflows : Buffered.capacity < held.size + (Action.text actions).toUTF8.size)
    (received : ByteArray) (journal : Journal) :
    ∃ kept journal',
      perform actions ⟨(⟨held, ⟨true, received⟩⟩ : Buffered), journal⟩ =
        .error (.unwritten .noSpace) ⟨⟨kept, ⟨true, received⟩⟩, journal'⟩ := by
  induction actions generalizing held journal with
  | nil =>
    have nothing : (Action.text []).toUTF8.size = 0 := rfl
    omega
  | cons action rest ih =>
    cases action with
    | note record =>
      rw [perform_note_cons]
      exact ih bounded overflows (journal.note record)
    | put piece =>
      rw [Action.toUTF8_text_put_cons, ByteArray.size_append] at overflows
      by_cases holds : held.size + piece.toUTF8.size ≤ Buffered.capacity ∧
          piece.toUTF8.size < Buffered.capacity
      · obtain ⟨fits, small⟩ := holds
        have first : Sink.write piece.toUTF8 (⟨held, ⟨true, received⟩⟩ : Buffered) = _ :=
          Buffered.write_of_holds small fits ⟨true, received⟩
        rw [perform_put_cons, bind_of_ok (put_of_ok journal first)]
        refine ih ?_ ?_ journal <;> rw [ByteArray.size_append] <;> omega
      · have unfit : Buffered.capacity < held.size + piece.toUTF8.size ∨
            Buffered.capacity ≤ piece.toUTF8.size := by omega
        obtain ⟨kept, refused⟩ := Buffered.write_of_overflows bounded unfit received
        have first : Sink.write piece.toUTF8 (⟨held, ⟨true, received⟩⟩ : Buffered) = _ := refused
        rw [perform_put_cons, bind_of_error (put_of_error journal first)]
        exact ⟨kept, journal, rfl⟩

end Work

namespace Walk

/-! ## The pieces of a walk -/

theorem size_join_cons (first : String) (rest : List String) :
    (String.join (first :: rest)).toUTF8.size =
      first.toUTF8.size + (String.join rest).toUTF8.size := by
  rw [toUTF8_join_cons, ByteArray.size_append]

/-- The end of a line is one byte. -/
theorem size_ended (text : String) : (text ++ "\n").toUTF8.size = text.toUTF8.size + 1 :=
  String.utf8ByteSize_append

/-- A text is no longer than several texts with it among them. -/
theorem size_le_size_join {text : String} {texts : List String} (mem : text ∈ texts) :
    text.toUTF8.size ≤ (String.join texts).toUTF8.size := by
  induction texts with
  | nil => exact absurd mem List.not_mem_nil
  | cons first rest ih =>
    rw [size_join_cons]
    rcases List.mem_cons.1 mem with rfl | later
    · exact Nat.le_add_right _ _
    · exact Nat.le_add_left_of_le (ih later)

/-- Every line has at least the byte of its end. -/
theorem length_le_size_printed (lines : List (Int64 × Line)) :
    lines.length ≤ (printed lines).toUTF8.size := by
  induction lines with
  | nil => exact Nat.zero_le _
  | cons entry rest ih =>
    rw [toUTF8_printed_cons, ByteArray.size_append, size_ended, List.length_cons]
    omega

/-- If the lines of a walk fit the buffer, no piece of the walk fills it by itself. -/
theorem Survey.size_piece_lt {span : Span} {survey : Survey}
    (fits : (printed survey.lines).toUTF8.size ≤ Buffered.capacity) {piece : String}
    (mem : .put piece ∈ survey.actions span) : piece.toUTF8.size < Buffered.capacity := by
  have of_line : ∃ entry ∈ survey.lines, piece ∈ entry.2.pieces ++ ["\n"] := by
    rw [actions, List.cons_append, List.mem_cons, List.mem_append] at mem
    rcases mem with first | lines | last
    · exact absurd first (by simp)
    · obtain ⟨entry, listed, mem⟩ := List.mem_flatMap.1 lines
      refine ⟨entry, listed, ?_⟩
      simpa [Work.Action.ofLine] using mem
    · split at last <;> simp at last
  obtain ⟨entry, listed, mem⟩ := of_line
  have line : (entry.2.text ++ "\n").toUTF8.size ≤ (printed survey.lines).toUTF8.size :=
    size_le_size_join (List.mem_map_of_mem listed)
  rw [size_ended] at line
  rcases List.mem_append.1 mem with own | ending
  · have part : piece.toUTF8.size ≤ entry.2.text.toUTF8.size := size_le_size_join own
    omega
  · obtain rfl := List.mem_singleton.1 ending
    decide

end Walk

end CodeChart
