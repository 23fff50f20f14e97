import CodeChart.Proofs.Entry.Columns
import CodeChart.Proofs.Entry.Points
import CodeChart.Proofs.Text.Utf8
import CodeChart.Proofs.Walk.Accepting

/-!
# Reading a chart back

A chart is read back line by line: `codes?` splits the text at its line feeds and reads the code of
each line.  `codes?_printed` says that this finds the codes of the lines again, since no line of an
entry holds a line feed.  `decode_line_and_chart` puts together what the columns of one line tell
and what a whole chart of code points tells.
-/

namespace CodeChart

/-! ## Spans of code points -/

namespace Catalogue

/-- A span of code points is covered. -/
theorem covers_unicode {span : Span} (least : 0 ≤ span.start) (greatest : span.stop ≤ 0x10FFFF) :
    unicode.Covers span := fun _ from_start to_stop =>
  ⟨_, unicode_of_codePoint (Int64.le_trans least from_start) (Int64.le_trans to_stop greatest)⟩

/-- No span is covered but those of code points and those without a point. -/
theorem covers_unicode_iff {span : Span} :
    unicode.Covers span ↔ span.stop < span.start ∨ 0 ≤ span.start ∧ span.stop ≤ 0x10FFFF := by
  constructor
  · intro covers
    rcases Int64.lt_or_le span.stop span.start with inverted | ordered
    · exact .inl inverted
    · obtain ⟨first, found⟩ := covers span.start Int64.le_rfl ordered
      obtain ⟨last, found'⟩ := covers span.stop ordered Int64.le_rfl
      exact .inr ⟨(codePoint_of_unicode_eq_ok found).1.1, (codePoint_of_unicode_eq_ok found').1.2⟩
  · rintro (inverted | ⟨least, greatest⟩)
    · intro asked from_start to_stop
      exact absurd (Int64.le_trans from_start to_stop) (Int64.not_le.2 inverted)
    · exact covers_unicode least greatest

end Catalogue

namespace Span

/-- The points counted from a code on are the numbers in a row from there. -/
theorem map_toNat_upFrom {start : Int64} {count : Nat} (least : 0 ≤ start)
    (fits : start.toInt + count ≤ 0x8000000000000000) :
    (upFrom start count).map (fun point => point.toInt.toNat) =
      List.range' start.toInt.toNat count := by
  have low : (0 : Int64).toInt ≤ start.toInt := Int64.le_iff_toInt_le.1 least
  have zero : (0 : Int64).toInt = 0 := rfl
  induction count generalizing start with
  | zero => rfl
  | succ count ih =>
    rw [upFrom, List.map_cons, List.range'_succ]
    rcases Nat.eq_zero_or_pos count with rfl | more
    · rfl
    · have next : (start + 1).toInt = start.toInt + 1 := toInt_add_one (by omega)
      have least' : (0 : Int64) ≤ start + 1 := by
        rw [Int64.le_iff_toInt_le]
        omega
      have value : (start + 1).toInt.toNat = start.toInt.toNat + 1 := by omega
      rw [ih least' (by omega) (by omega), value]

end Span

namespace Walk

/-- The codes of the lines of a chart, in order, if it is a text of ended lines that have codes. -/
def codes? (output : ByteArray) : Option (List Nat) := do
  let text ← String.fromUTF8? output
  let parts := text.toList.splitOn '\n'
  if parts.getLast? = some [] then parts.dropLast.mapM Line.code? else none

theorem toList_printed_cons (entry : Int64 × Line) (rest : List (Int64 × Line)) :
    (printed (entry :: rest)).toList =
      entry.2.text.toList ++ '\n' :: (printed rest).toList := by
  simp [printed]

/-- At its line feeds a chart splits into its lines, with nothing behind the last line feed. -/
theorem splitOn_line_feed_printed {lines : List (Int64 × Line)}
    (whole : ∀ entry ∈ lines, '\n' ∉ entry.2.text.toList) :
    (printed lines).toList.splitOn '\n' = lines.map (fun entry => entry.2.text.toList) ++ [[]] := by
  induction lines with
  | nil => rfl
  | cons entry rest ih =>
    rw [List.forall_mem_cons] at whole
    rw [toList_printed_cons, List.splitOn_append_cons_self_of_not_mem whole.1, ih whole.2,
      List.map_cons, List.cons_append]

/-- A chart of lines that have codes reads back to the codes. -/
theorem codes?_printed {lines : List (Int64 × Line)} {code : Int64 × Line → Nat}
    (whole : ∀ entry ∈ lines, '\n' ∉ entry.2.text.toList)
    (reads : ∀ entry ∈ lines, Line.code? entry.2.text.toList = some (code entry)) :
    codes? (printed lines).toUTF8 = some (lines.map code) := by
  have each : (lines.map fun entry => entry.2.text.toList).mapM Line.code? =
      some (lines.map code) := by
    clear whole
    induction lines with
    | nil => rfl
    | cons entry rest ih =>
      rw [List.forall_mem_cons] at reads
      rw [List.map_cons, List.mapM_cons, reads.1, ih reads.2]
      rfl
  have parts := splitOn_line_feed_printed whole
  have last : ((printed lines).toList.splitOn '\n').getLast? = some [] := by
    rw [parts, List.getLast?_concat]
  have text : String.fromUTF8? (printed lines).toUTF8 = some (printed lines) :=
    Text.Utf8.fromUTF8?_eq_some_iff.2 rfl
  rw [codes?, text]
  show (if ((printed lines).toList.splitOn '\n').getLast? = some [] then
    ((printed lines).toList.splitOn '\n').dropLast.mapM Line.code? else none) = _
  rw [if_pos last, parts, List.dropLast_concat, each]

/-! ## Charts of code points -/

/-- The lines of a span of code points read back to these points. -/
theorem codes?_survey_unicode {span : Span} (least : 0 ≤ span.start)
    (greatest : span.stop ≤ 0x10FFFF) :
    codes? (printed (survey Catalogue.unicode span.size span.start).lines).toUTF8 =
      some (List.range' span.start.toInt.toNat span.size) := by
  obtain ⟨accepted, -, lists⟩ := survey_of_covers (Catalogue.covers_unicode least greatest)
  have points := map_fst_lines_of_absent?_eq_none accepted
  have line_of : ∀ entry ∈ (survey Catalogue.unicode span.size span.start).lines,
      entry.2 = (Entry.ofCode (UInt32.ofNat entry.1.toInt.toNat)).line ∧
        (Entry.ofCode (UInt32.ofNat entry.1.toInt.toNat)).code.toNat = entry.1.toInt.toNat := by
    intro entry mem
    obtain ⟨⟨from_start, to_stop⟩, found⟩ := (lists.mem_iff entry.1 entry.2).1 mem
    have low := Int64.le_trans least from_start
    have high := Int64.le_trans to_stop greatest
    rw [Catalogue.unicode_of_codePoint low high] at found
    exact ⟨(Except.ok.inj found).symm, Entry.toNat_code_of_codePoint low high⟩
  have read : codes? (printed (survey Catalogue.unicode span.size span.start).lines).toUTF8 =
      some ((survey Catalogue.unicode span.size span.start).lines.map
        fun entry => entry.1.toInt.toNat) := by
    apply codes?_printed
    · intro entry mem
      rw [(line_of entry mem).1]
      exact Entry.line_feed_not_mem_line _
    · intro entry mem
      rw [(line_of entry mem).1, Line.code?_line, (line_of entry mem).2]
  rw [read, ← Span.map_toNat_upFrom least span.toInt_start_add_size, ← points, List.map_map]
  rfl

/-- A line of the code chart splits at its tabs into four columns.  The first is the code in upper
case after `U+`, padded to four digits and not beyond; the second is the quoted character, which
reads back to the code and nothing more, also where the code has no character; the third is the
abbreviation of the category, in two letters; the fourth is the label.  So no two codes have the
same line, and from the chart of any span of code points its points can be read back in order. -/
theorem decode_line_and_chart :
    (∀ code : UInt32, ∃ numeral glyph : List Char,
      (Entry.ofCode code).line.text.toList.splitOn '\t' =
        [['U', '+'] ++ numeral, ['\''] ++ glyph ++ ['\''],
          (Entry.ofCode code).category.abbreviation.toList, (Entry.ofCode code).label.toList] ∧
      Text.Hex.read? 'A' numeral = some code.toNat ∧
      4 ≤ numeral.length ∧ (4 < numeral.length → numeral.head? ≠ some '0') ∧
      Text.Escape.unescape? glyph = some [code.toNat] ∧
      (Entry.ofCode code).category.abbreviation.length = 2) ∧
    (∀ code other : UInt32,
      (Entry.ofCode code).line.text = (Entry.ofCode other).line.text → code = other) ∧
    ∀ (span : Span) (journal : Journal),
      0 ≤ span.start → span.stop ≤ 0x10FFFF →
      ∃ count after,
        chart Catalogue.unicode span ⟨Capture.empty none, journal⟩ = .ok count after ∧
        codes? after.sink.bytes = some (List.range' span.start.toInt.toNat span.size) := by
  refine ⟨fun code => ?_, fun code other same => ?_, fun span journal least greatest => ?_⟩
  · have columns := Entry.splitOn_tab_line (Entry.ofCode code)
    rw [Entry.columns, Entry.code_ofCode] at columns
    refine ⟨Text.Hex.padded code.toNat, (Entry.ofCode code).glyph, columns,
      Text.Hex.read?_padded _, ?_, Text.Hex.head?_padded, Entry.unescape?_glyph_ofCode code, ?_⟩
    · rw [Text.Hex.length_padded]
      exact Nat.le_max_left ..
    · cases (Entry.ofCode code).category <;> rfl
  · have reads := Line.code?_line (Entry.ofCode code)
    rw [same, Line.code?_line, Entry.code_ofCode, Entry.code_ofCode] at reads
    exact UInt32.toNat_inj.1 (Option.some.inj reads).symm
  · obtain ⟨accepted, -, -⟩ := survey_of_covers (Catalogue.covers_unicode least greatest)
    obtain ⟨after, walked, -, -, output⟩ := chart_of_accepts Capture.accepts Catalogue.unicode span
      (Capture.empty none) rfl journal
    refine ⟨0 + UInt64.ofNat (survey Catalogue.unicode span.size span.start).lines.length, after,
      ?_, ?_⟩
    · rw [walked, Survey.ending, accepted]
      rfl
    · have nothing : (Capture.empty none).bytes = .empty := rfl
      rw [output, nothing, ByteArray.empty_append, codes?_survey_unicode least greatest]

/-- The points 9 to 13 are those of the tab, the line feed and other line breaks.  Their chart reads
back like any other. -/
theorem chart_of_separators_reads_back :
    ∃ count after,
      chart Catalogue.unicode ⟨9, 13⟩ ⟨Capture.empty none, Journal.empty .off⟩ = .ok count after ∧
      codes? after.sink.bytes = some [9, 10, 11, 12, 13] :=
  decode_line_and_chart.2.2 ⟨9, 13⟩ (Journal.empty .off) (by decide) (by decide)

end Walk

end CodeChart
