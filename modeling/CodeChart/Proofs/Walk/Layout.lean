import CodeChart.Proofs.Text.Controls
import CodeChart.Proofs.Walk.Readback

/-!
# The layout of a chart

Each entry is shown on one line, also where its character would end a line or move the cursor: a
line has three tabs and, besides them, no character that breaks a line (`Entry.count_tab_line`,
`Entry.not_breaks_of_mem_line`).  So the line feeds of a chart are the ends of its lines, and there
are as many as the walk has found points with an entry (`chart_unicode_layout`).
-/

namespace CodeChart

/-- At a separator a text splits into one part more than there are separators in it. -/
theorem Text.length_splitOn (separator : Char) (text : List Char) :
    (text.splitOn separator).length = text.count separator + 1 := by
  induction text with
  | nil => rfl
  | cons c rest ih =>
    rw [List.splitOn_cons_eq_if_modifyHead, List.count_cons]
    split
    · rw [List.length_cons, ih]
    · rw [List.length_modifyHead, ih]

namespace Entry

/-- Between the four columns of a line there are three tabs. -/
theorem count_tab_line (entry : Entry) : entry.line.text.toList.count '\t' = 3 := by
  have parts := Text.length_splitOn '\t' entry.line.text.toList
  rw [splitOn_tab_line] at parts
  exact (Nat.succ.inj parts).symm

/-- Of the characters that break a line nothing but its tabs is in a line, whichever character it
shows. -/
theorem not_breaks_of_mem_line {entry : Entry} {c : Char} (mem : c ∈ entry.line.text.toList) :
    c = '\t' ∨ Text.breaks c = false := by
  rcases mem_line mem with rfl | ⟨column, isColumn, mem⟩
  · exact .inl rfl
  · rcases plain_of_mem_columns isColumn mem with plain | ⟨isLiteral, -⟩
    · exact .inr (Text.not_breaks_of_isPlain plain)
    · exact .inr (Text.not_breaks_of_isLiteral isLiteral)

end Entry

namespace Catalogue

/-- The points of a span, counted from its start, that have a line, up to the first one that is
refused. -/
def answered (catalogue : Catalogue) (span : Span) : List Int64 :=
  (Span.upFrom span.start span.size).takeWhile fun point => (catalogue point).isOk

end Catalogue

namespace Walk

/-- A survey has the lines of the points up to the first refusal. -/
theorem map_fst_lines_eq_takeWhile (catalogue : Catalogue) (left : Nat) (point : Int64) :
    (survey catalogue left point).lines.map Prod.fst =
      (Span.upFrom point left).takeWhile fun asked => (catalogue asked).isOk := by
  induction left generalizing point with
  | zero => rfl
  | succ left ih =>
    rw [Span.upFrom, List.takeWhile_cons]
    cases found : catalogue point with
    | error absent =>
      rw [survey_of_error found]
      rfl
    | ok line =>
      rw [survey_of_ok found, List.map_cons, ih]
      rfl

/-- Of lines without a line feed, a chart has as many line feeds as lines. -/
theorem count_line_feed_printed {lines : List (Int64 × Line)}
    (whole : ∀ entry ∈ lines, '\n' ∉ entry.2.text.toList) :
    (printed lines).toList.count '\n' = lines.length := by
  have parts := Text.length_splitOn '\n' (printed lines).toList
  rw [splitOn_line_feed_printed whole, List.length_append, List.length_map] at parts
  exact (Nat.succ.inj parts).symm

/-- The characters of a chart are its line feeds and those of its lines. -/
theorem mem_printed {lines : List (Int64 × Line)} {c : Char} (mem : c ∈ (printed lines).toList) :
    c = '\n' ∨ ∃ entry ∈ lines, c ∈ entry.2.text.toList := by
  induction lines with
  | nil => exact absurd mem List.not_mem_nil
  | cons entry rest ih =>
    rw [toList_printed_cons, List.mem_append, List.mem_cons] at mem
    rcases mem with own | rfl | later
    · exact .inr ⟨entry, List.mem_cons_self, own⟩
    · exact .inl rfl
    · rcases ih later with rfl | ⟨other, mem, inside⟩
      · exact .inl rfl
      · exact .inr ⟨other, List.mem_cons_of_mem entry mem, inside⟩

variable {σ : Type} [Sink σ] {opened : σ → Prop} {view : σ → ByteArray}

/-- On an open sink a walk over the code chart adds one line for each point that it finds an entry
for, in order, however it ends.  A line feed is the end of a line and stands nowhere else, each line
has three tabs, and no other control character or separator is added, also where the characters of
the chart are such characters. -/
theorem chart_unicode_layout (accepts : Sink.Accepts opened view) (span : Span) (sink : σ)
    (isOpen : opened sink) (journal : Journal) :
    ∃ (result : Except Fault UInt64) (lines : List (Int64 × Line)) (after : Session σ),
      chart Catalogue.unicode span ⟨sink, journal⟩ = Work.ofExcept result after ∧
      view after.sink = view sink ++ (printed lines).toUTF8 ∧
      lines.map Prod.fst = Catalogue.unicode.answered span ∧
      (printed lines).toList.count '\n' = (Catalogue.unicode.answered span).length ∧
      (∀ entry ∈ lines,
        '\n' ∉ entry.2.text.toList ∧ entry.2.text.toList.count '\t' = 3) ∧
      ∀ c ∈ (printed lines).toList, Text.breaks c = true → c = '\t' ∨ c = '\n' := by
  obtain ⟨after, walked, -, -, added⟩ :=
    chart_of_accepts accepts Catalogue.unicode span sink isOpen journal
  have points : (survey Catalogue.unicode span.size span.start).lines.map Prod.fst =
      Catalogue.unicode.answered span := map_fst_lines_eq_takeWhile ..
  have shown : ∀ entry ∈ (survey Catalogue.unicode span.size span.start).lines,
      ∃ chosen : Entry, entry.2 = chosen.line := fun entry mem =>
    ⟨_, (Catalogue.codePoint_of_unicode_eq_ok (resolved_of_mem_survey mem)).2⟩
  have whole : ∀ entry ∈ (survey Catalogue.unicode span.size span.start).lines,
      '\n' ∉ entry.2.text.toList := by
    intro entry mem
    obtain ⟨chosen, line⟩ := shown entry mem
    rw [line]
    exact chosen.line_feed_not_mem_line
  refine ⟨_, _, after, walked, added, points, ?_, fun entry mem => ⟨whole entry mem, ?_⟩,
    fun c mem breaking => ?_⟩
  · rw [count_line_feed_printed whole, ← points, List.length_map]
  · obtain ⟨chosen, line⟩ := shown entry mem
    rw [line]
    exact chosen.count_tab_line
  · rcases mem_printed mem with rfl | ⟨entry, isLine, inside⟩
    · exact .inr rfl
    · obtain ⟨chosen, line⟩ := shown entry isLine
      rw [line] at inside
      rcases Entry.not_breaks_of_mem_line inside with rfl | not_breaking
      · exact .inl rfl
      · rw [not_breaking] at breaking
        exact absurd breaking (by decide)

/-- The line and paragraph separators, and what stands around them, have a line each. -/
theorem chart_unicode_across_separators :
    let span : Span := ⟨0x2027, 0x202A⟩
    let session : Session Capture := ⟨⟨none, "kept".toUTF8⟩, Journal.empty .off⟩
    session.sink.limit? = none ∧
    ∃ result lines after,
      chart Catalogue.unicode span session = Work.ofExcept result after ∧
      after.sink.bytes = "kept".toUTF8 ++ (printed lines).toUTF8 ∧
      (printed lines).toList.count '\n' = 4 ∧ '\u2028' ∉ (printed lines).toList := by
  intro span session
  obtain ⟨result, lines, after, walked, added, -, ends, -, breaking⟩ :=
    chart_unicode_layout Capture.accepts span session.sink rfl session.journal
  have four : (Catalogue.unicode.answered span).length = 4 := by decide +kernel
  refine ⟨rfl, result, lines, after, walked, added, ends.trans four, fun mem => ?_⟩
  exact absurd (breaking _ mem rfl) (by decide)

end Walk

end CodeChart
