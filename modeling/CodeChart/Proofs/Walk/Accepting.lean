import CodeChart.Proofs.Walk.Survey
import CodeChart.Sink.Buffered

/-!
# Walks on sinks that take everything

`Sink.Accepts` says that a sink takes every piece as long as it is open, and through which view the
pieces are seen in order.  A capture without a limit is such a sink, and so is a buffer in front of
a device with space.  What a walk leaves in such a sink depends on the catalogue alone:
`chart_of_accepts` gives the text, the records and the ending by the survey of the span, and
`chart_refusesFirst_or_covers` gives them by the least refused point, without a survey.
-/

namespace CodeChart

/-- As long as the sink is open it takes every piece and stays open, and the view shows the pieces
in order. -/
structure Sink.Accepts {σ : Type} [Sink σ] (opened : σ → Prop) (view : σ → ByteArray) : Prop where
  /-- A piece is taken whole, behind what was taken before. -/
  write : ∀ (piece : ByteArray) (sink : σ), opened sink →
    ∃ after, Sink.write piece sink = .ok () after ∧ opened after ∧ view after = view sink ++ piece

/-- A capture without a limit takes everything. -/
theorem Capture.accepts :
    Sink.Accepts (fun capture : Capture => capture.limit? = none) Capture.bytes where
  write piece := by
    rintro ⟨limit?, bytes⟩ rfl
    exact ⟨⟨none, bytes ++ piece⟩, Capture.write_unlimited piece bytes, rfl, rfl⟩

/-- A buffer in front of a device with space takes everything, as long as it holds no more than it
can. -/
theorem Buffered.accepts :
    Sink.Accepts
      (fun buffered : Buffered => buffered.device.full = false ∧ buffered.held.size ≤ capacity)
      Buffered.taken where
  write piece := by
    rintro ⟨held, ⟨full, received⟩⟩ ⟨rfl, bounded⟩
    obtain ⟨after, taken, space, bounded, view⟩ := Buffered.write_open piece held received bounded
    exact ⟨after, taken, ⟨space, bounded⟩, view⟩

namespace Work

variable {σ : Type} [Sink σ] {opened : σ → Prop} {view : σ → ByteArray}

/-- Actions on an open sink are all performed: their text is taken and their records are made. -/
theorem perform_of_accepts (accepts : Sink.Accepts opened view) (actions : List Action) {sink : σ}
    (isOpen : opened sink) (journal : Journal) :
    ∃ after, perform actions ⟨sink, journal⟩ =
        .ok () ⟨after, (Action.records actions).foldl Journal.note journal⟩ ∧
      opened after ∧ view after = view sink ++ (Action.text actions).toUTF8 := by
  induction actions generalizing sink journal with
  | nil => exact ⟨sink, rfl, isOpen, by simp [Action.text]⟩
  | cons action rest ih =>
    cases action with
    | note record =>
      rw [perform_note_cons]
      exact ih isOpen (journal.note record)
    | put piece =>
      obtain ⟨next, taken, isOpen', behind⟩ := accepts.write piece.toUTF8 sink isOpen
      obtain ⟨after, performed, isOpen'', view_after⟩ := ih isOpen' journal
      rw [perform_put_cons, bind_of_ok (put_of_ok journal taken)]
      refine ⟨after, performed, isOpen'', ?_⟩
      rw [view_after, behind, Action.toUTF8_text_put_cons, ByteArray.append_assoc]

end Work

namespace Walk

variable {σ : Type} [Sink σ] {opened : σ → Prop} {view : σ → ByteArray}

/-- A walk on an open sink takes down the lines of its survey, makes all its records and ends as the
survey ends. -/
theorem chart_of_accepts (accepts : Sink.Accepts opened view) (catalogue : Catalogue) (span : Span)
    (sink : σ) (isOpen : opened sink) (journal : Journal) :
    ∃ after : Session σ,
      chart catalogue span ⟨sink, journal⟩ =
        Work.ofExcept ((survey catalogue span.size span.start).ending 0) after ∧
      after.journal = (Work.Action.records ((survey catalogue span.size span.start).actions
        span)).foldl Journal.note journal ∧
      opened after.sink ∧
      view after.sink =
        view sink ++ (printed (survey catalogue span.size span.start).lines).toUTF8 := by
  obtain ⟨after, performed, isOpen', behind⟩ := Work.perform_of_accepts accepts
    ((survey catalogue span.size span.start).actions span) isOpen journal
  have walked := Work.bind_of_ok performed fun _ =>
    Work.ofExcept ((survey catalogue span.size span.start).ending 0)
  rw [← chart_eq_perform] at walked
  rw [Survey.text_actions] at behind
  exact ⟨_, walked, rfl, isOpen', behind⟩

/-- The number of points of a span fits a word, except for the span of all points. -/
theorem toNat_ofNat_size {span : Span} (proper : span ≠ ⟨Int64.minValue, Int64.maxValue⟩) :
    (UInt64.ofNat span.size).toNat = span.size := by
  have least := span.start.le_toInt
  have greatest := span.stop.toInt_lt
  -- only from the least to the greatest point there are as many points as words
  have below : span.size < 2 ^ 64 := by
    refine Nat.lt_of_not_le fun not_below => ?_
    have size : span.size = (span.stop.toInt - span.start.toInt + 1).toNat := rfl
    apply proper
    have start : span.start = Int64.minValue := by
      rw [← Int64.toInt_inj, Int64.toInt_minValue]
      omega
    have stop : span.stop = Int64.maxValue := by
      rw [← Int64.toInt_inj, Int64.toInt_maxValue]
      omega
    rw [← start, ← stop]
  rw [UInt64.toNat_ofNat', Nat.mod_eq_of_lt below]

/-- On an open sink, a walk over a span in which a point is refused ends in the refusal of the least
such point and adds the lines of the points below it; a walk over a span in which no point is
refused returns the number of points and adds their lines.  The lines come in ascending order of the
points and each once, what the sink took before stays in front of them, and no point outside the
span has a part in it. -/
theorem chart_refusesFirst_or_covers (accepts : Sink.Accepts opened view) (catalogue : Catalogue)
    (span : Span) (proper : span ≠ ⟨Int64.minValue, Int64.maxValue⟩) (sink : σ)
    (isOpen : opened sink) (journal : Journal) :
    (∀ point absent, catalogue.RefusesFirst span point absent →
      ∃ lines after, catalogue.Lists (fun asked => span.start ≤ asked ∧ asked < point) lines ∧
        chart catalogue span ⟨sink, journal⟩ = .error (.noEntry absent) after ∧
        view after.sink = view sink ++ (printed lines).toUTF8) ∧
    (catalogue.Covers span →
      ∃ lines count after,
        catalogue.Lists (fun asked => span.start ≤ asked ∧ asked ≤ span.stop) lines ∧
        chart catalogue span ⟨sink, journal⟩ = .ok count after ∧
        (count.toNat : Int) =
          (if span.stop < span.start then 0 else span.stop.toInt - span.start.toInt + 1) ∧
        view after.sink = view sink ++ (printed lines).toUTF8) ∧
    ∀ other : Catalogue,
      (∀ asked, span.start ≤ asked → asked ≤ span.stop → other asked = catalogue asked) →
      chart other span ⟨sink, journal⟩ = chart catalogue span ⟨sink, journal⟩ := by
  obtain ⟨after, walked, -, -, behind⟩ :=
    chart_of_accepts accepts catalogue span sink isOpen journal
  refine ⟨fun point absent first => ?_, fun covers => ?_, fun other agree => ?_⟩
  · obtain ⟨stopped, lists⟩ := survey_of_refusesFirst first
    refine ⟨_, after, lists, ?_, behind⟩
    rw [walked, Survey.ending, stopped]
    rfl
  · obtain ⟨accepted, length, lists⟩ := survey_of_covers covers
    refine ⟨_, UInt64.ofNat span.size, after, lists, ?_, ?_, behind⟩
    · rw [walked, Survey.ending, accepted, length, UInt64.zero_add]
      rfl
    · rw [toNat_ofNat_size proper]
      split
      · next inverted => rw [(Span.size_eq_zero_iff span).2 inverted, Int.natCast_zero]
      · next ordered => exact Span.toInt_size (Int64.not_lt.1 ordered)
  · have same : survey other span.size span.start = survey catalogue span.size span.start :=
      survey_congr fun asked mem =>
        agree asked (Span.mem_upFrom_size.1 mem).1 (Span.mem_upFrom_size.1 mem).2
    rw [chart_eq_perform, chart_eq_perform, same]

/-- A walk ends at the greatest of all points too: there is no line behind the one before it if the
greatest point is refused, and there are two lines if it is not. -/
theorem chart_at_greatest_point :
    let rows := Catalogue.ofRows [(9223372036854775806, "one"), (7, "two")]
    let span : Span := ⟨9223372036854775806, Int64.maxValue⟩
    let session : Session Capture := ⟨⟨none, "kept".toUTF8⟩, Journal.empty .off⟩
    span ≠ ⟨Int64.minValue, Int64.maxValue⟩ ∧
    rows.RefusesFirst span Int64.maxValue ⟨Int64.maxValue⟩ ∧
    (∃ lines after, rows.Lists (fun asked => span.start ≤ asked ∧ asked < Int64.maxValue) lines ∧
      chart rows span session = .error (.noEntry ⟨Int64.maxValue⟩) after ∧
      after.sink.bytes = "kept".toUTF8 ++ (printed lines).toUTF8) ∧
    Catalogue.echo.Covers span ∧
    ∃ count after,
      chart Catalogue.echo span session = .ok count after ∧ (count.toNat : Int) = 2 := by
  intro rows span session
  have proper : span ≠ ⟨Int64.minValue, Int64.maxValue⟩ := by decide
  have first : rows.RefusesFirst span Int64.maxValue ⟨Int64.maxValue⟩ := by
    refine ⟨by decide, by decide, rfl, fun asked from_start below => ⟨⟨["one"]⟩, ?_⟩⟩
    have low : (9223372036854775806 : Int) ≤ asked.toInt := Int64.le_iff_toInt_le.1 from_start
    have high : asked.toInt < 9223372036854775807 := Int64.lt_iff_toInt_lt.1 below
    obtain rfl : asked = 9223372036854775806 := Int64.toInt_inj.1 (by
      show asked.toInt = 9223372036854775806
      omega)
    rfl
  have covers : Catalogue.echo.Covers span := fun _ _ _ => ⟨_, rfl⟩
  have refusing := (chart_refusesFirst_or_covers Capture.accepts rows span proper
    session.sink rfl session.journal).1
  have covering := (chart_refusesFirst_or_covers Capture.accepts Catalogue.echo span proper
    session.sink rfl session.journal).2.1
  obtain ⟨_, count, after, -, walked, counted, -⟩ := covering covers
  have two :
      (if span.stop < span.start then 0 else span.stop.toInt - span.start.toInt + 1) = 2 := by
    decide
  exact ⟨proper, first, refusing _ _ first, covers, count, after, walked, counted.trans two⟩

end Walk

end CodeChart
