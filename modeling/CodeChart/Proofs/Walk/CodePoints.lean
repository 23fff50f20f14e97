import CodeChart.Proofs.Walk.Readback

/-!
# Walks over the code chart

The code chart has a line for each point from 0 to U+10FFFF, and for no other point.  So a walk over
it ends in one of four ways, by where its span lies.  An inverted span has no point.  A span that
starts outside of the chart has its start refused.  A span inside of the chart is walked over.  A
span that starts inside and stops behind the chart is walked over up to U+10FFFF, and the point
behind that is refused.

The lines are in every case those of consecutive codes from the start on (`texts_lines_unicode`), so
there are never more than 0x110000 of them (`length_lines_unicode_le`).  `chart_unicode_outcome`
puts this together.
-/

namespace CodeChart

namespace Entry

/-- The texts of the lines of as many codes as a number says, from a code on. -/
def texts (first count : Nat) : List String :=
  (List.range' first count).map fun code => (ofCode (UInt32.ofNat code)).line.text

end Entry

namespace Catalogue

/-- Of a span that starts outside of the code chart, the start is refused. -/
theorem refusesFirst_unicode_start {span : Span} (ordered : span.start ≤ span.stop)
    (outside : span.start < 0 ∨ 0x10FFFF < span.start) :
    unicode.RefusesFirst span span.start ⟨span.start⟩ where
  start_le := Int64.le_rfl
  le_stop := ordered
  refused := by
    refine unicode_of_not_codePoint fun inside => ?_
    rcases outside with below | above
    · exact Int64.not_le.2 below inside.1
    · exact Int64.not_le.2 above inside.2
  least := fun _ from_start before => absurd before (Int64.not_lt.2 from_start)

/-- Of a span that starts inside of the code chart and stops behind it, the point behind the last
code point is refused. -/
theorem refusesFirst_unicode_behind {span : Span} (least : 0 ≤ span.start)
    (inside : span.start ≤ 0x10FFFF) (beyond : 0x10FFFF < span.stop) :
    unicode.RefusesFirst span 0x110000 ⟨0x110000⟩ where
  start_le := Int64.le_trans inside (by decide)
  le_stop := by
    have beyond : (0x10FFFF : Int) < span.stop.toInt := Int64.lt_iff_toInt_lt.1 beyond
    exact Int64.le_iff_toInt_le.2 beyond
  refused := unicode_of_not_codePoint (by decide)
  least := by
    intro asked from_start before
    have before : asked.toInt < 0x110000 := Int64.lt_iff_toInt_lt.1 before
    exact ⟨_, unicode_of_codePoint (Int64.le_trans least from_start)
      (Int64.le_iff_toInt_le.2 (Int.le_of_lt_add_one before))⟩

end Catalogue

namespace Walk

/-! ## The lines -/

variable {span : Span}

/-- Each line is that of a code, counted from the start of the span. -/
theorem line_of_getElem?_lines {i : Nat} {entry : Int64 × Line}
    (found : (survey Catalogue.unicode span.size span.start).lines[i]? = some entry) :
    0 ≤ span.start.toInt + i ∧ span.start.toInt + i ≤ 0x10FFFF ∧
      entry.2 = (Entry.ofCode (UInt32.ofNat (span.start.toInt + i).toNat)).line := by
  obtain ⟨⟨least, greatest⟩, line⟩ := Catalogue.codePoint_of_unicode_eq_ok
    (resolved_of_mem_survey (List.mem_of_getElem? found))
  have least : (0 : Int) ≤ entry.1.toInt := Int64.le_iff_toInt_le.1 least
  have greatest : entry.1.toInt ≤ 0x10FFFF := Int64.le_iff_toInt_le.1 greatest
  rw [← toInt_of_getElem?_lines found]
  exact ⟨least, greatest, line⟩

/-- There is no line behind the start unless the start is a code. -/
theorem start_nonneg_of_lines {i : Nat}
    (inside : i < (survey Catalogue.unicode span.size span.start).lines.length) :
    0 ≤ span.start.toInt := by
  have first := List.getElem?_eq_getElem (Nat.zero_lt_of_lt inside)
  have nonneg := (line_of_getElem?_lines first).1
  omega

/-- The lines are those of consecutive codes from the start on. -/
theorem texts_lines_unicode (span : Span) :
    (survey Catalogue.unicode span.size span.start).lines.map (·.2.text) =
      Entry.texts span.start.toInt.toNat
        (survey Catalogue.unicode span.size span.start).lines.length := by
  refine List.ext_getElem (by simp [Entry.texts]) fun i inside _ => ?_
  rw [List.length_map] at inside
  obtain ⟨-, -, line⟩ := line_of_getElem?_lines (List.getElem?_eq_getElem inside)
  have start := start_nonneg_of_lines inside
  have code : (span.start.toInt + i).toNat = span.start.toInt.toNat + i := by omega
  rw [List.getElem_map, line, code]
  simp [Entry.texts]

/-- There are no more lines than codes in the chart. -/
theorem length_lines_unicode_le (span : Span) :
    (survey Catalogue.unicode span.size span.start).lines.length ≤ 0x110000 := by
  refine Nat.le_of_not_lt fun many => ?_
  have last := (line_of_getElem?_lines (List.getElem?_eq_getElem many)).2.1
  have start := start_nonneg_of_lines many
  omega

/-! ## The outcome -/

variable {σ : Type} [Sink σ] {opened : σ → Prop} {view : σ → ByteArray}

/-- On an open sink a walk over the code chart adds whole lines, those of consecutive codes from the
start of its span on and never more than 0x110000.  How it ends, and how many lines there are,
depends on where the span lies.  If it is inverted, zero is returned, whatever its points are.
Otherwise, if it starts outside of the chart, its start is refused and there is no line.  If it lies
inside, every point has a line, also the surrogates and the points without a character, and their
number is returned.  If it starts inside and stops behind the chart, the point behind the last code
point is refused, and the lines go up to there. -/
theorem chart_unicode_outcome (accepts : Sink.Accepts opened view) (span : Span) (sink : σ)
    (isOpen : opened sink) (journal : Journal) :
    ∃ (result : Except Fault UInt64) (lines : List String) (after : Session σ),
      chart Catalogue.unicode span ⟨sink, journal⟩ = Work.ofExcept result after ∧
      view after.sink = view sink ++ (ended lines).toUTF8 ∧
      lines = Entry.texts span.start.toInt.toNat lines.length ∧
      (∀ line ∈ lines, '\n' ∉ line.toList) ∧
      lines.length ≤ 0x110000 ∧
      (span.stop < span.start → result = .ok 0 ∧ lines.length = 0) ∧
      (span.start ≤ span.stop → span.start < 0 ∨ 0x10FFFF < span.start →
        result = .error (.noEntry ⟨span.start⟩) ∧ lines.length = 0) ∧
      (span.start ≤ span.stop → 0 ≤ span.start → span.stop ≤ 0x10FFFF →
        ∃ count, result = .ok count ∧ count.toNat = lines.length ∧
          (lines.length : Int) = span.stop.toInt - span.start.toInt + 1) ∧
      (0 ≤ span.start → span.start ≤ 0x10FFFF → 0x10FFFF < span.stop →
        result = .error (.noEntry ⟨0x110000⟩) ∧
          (lines.length : Int) = 0x110000 - span.start.toInt) := by
  obtain ⟨after, walked, -, -, behind⟩ :=
    chart_of_accepts accepts Catalogue.unicode span sink isOpen journal
  have few := length_lines_unicode_le span
  refine ⟨_, (survey Catalogue.unicode span.size span.start).lines.map (·.2.text), after, walked,
    ?_, ?_, ?_, ?_, ?_⟩
  · rw [behind, printed_eq_ended]
  · rw [List.length_map]
    exact texts_lines_unicode span
  · rw [List.forall_mem_map]
    intro entry mem
    obtain ⟨-, line⟩ := Catalogue.codePoint_of_unicode_eq_ok (resolved_of_mem_survey mem)
    rw [line]
    exact Entry.line_feed_not_mem_line _
  · rw [List.length_map]
    exact few
  · rw [List.length_map, Survey.ending]
    refine ⟨fun inverted => ?_, fun ordered outside => ?_, fun ordered least greatest => ?_,
      fun least inside beyond => ?_⟩
    · rw [(Span.size_eq_zero_iff span).2 inverted]
      exact ⟨rfl, rfl⟩
    · have first := Catalogue.refusesFirst_unicode_start ordered outside
      have length := length_lines_of_refusesFirst first
      rw [(survey_of_refusesFirst first).1]
      exact ⟨rfl, by omega⟩
    · obtain ⟨accepted, length, -⟩ := survey_of_covers (Catalogue.covers_unicode least greatest)
      rw [accepted]
      refine ⟨_, rfl, ?_, ?_⟩
      · rw [UInt64.zero_add, UInt64.toNat_ofNat']
        omega
      · rw [length, Span.toInt_size ordered]
    · have first := Catalogue.refusesFirst_unicode_behind least inside beyond
      rw [(survey_of_refusesFirst first).1]
      exact ⟨rfl, length_lines_of_refusesFirst first⟩

/-- Over all points there are, the walk ends at the least one; from the last code point but one on
it ends behind two lines. -/
theorem chart_unicode_up_to_greatest_point :
    let session : Session Capture := ⟨⟨none, "kept".toUTF8⟩, Journal.empty .off⟩
    session.sink.limit? = none ∧
    (∃ after,
      chart Catalogue.unicode ⟨Int64.minValue, Int64.maxValue⟩ session =
        .error (.noEntry ⟨Int64.minValue⟩) after ∧
      after.sink.bytes = "kept".toUTF8) ∧
    ∃ lines after,
      chart Catalogue.unicode ⟨0x10FFFE, Int64.maxValue⟩ session =
        .error (.noEntry ⟨0x110000⟩) after ∧
      after.sink.bytes = "kept".toUTF8 ++ (ended lines).toUTF8 ∧ lines.length = 2 := by
  intro session
  refine ⟨rfl, ?_, ?_⟩
  · obtain ⟨result, lines, after, walked, written, -, -, -, -, outside, -, -⟩ :=
      chart_unicode_outcome Capture.accepts ⟨Int64.minValue, Int64.maxValue⟩ session.sink rfl
        session.journal
    obtain ⟨rfl, none_left⟩ := outside (by decide) (.inl (by decide))
    obtain rfl : lines = [] := List.length_eq_zero_iff.1 none_left
    exact ⟨after, walked, written.trans ByteArray.append_empty⟩
  · obtain ⟨result, lines, after, walked, written, -, -, -, -, -, -, behind⟩ :=
      chart_unicode_outcome Capture.accepts ⟨0x10FFFE, Int64.maxValue⟩ session.sink rfl
        session.journal
    obtain ⟨rfl, length⟩ := behind (by decide) (by decide) (by decide)
    have two : 0x110000 - (0x10FFFE : Int64).toInt = 2 := by decide
    exact ⟨lines, after, walked, written, Int.ofNat.inj (length.trans two)⟩

end Walk

end CodeChart
