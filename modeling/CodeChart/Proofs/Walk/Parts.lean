import CodeChart.Proofs.Walk.Accepting

/-!
# Walking in parts

A span can be cut behind any of its points.  Walking over the first part, and then over the rest if
the first walk came to its end, leaves the sink as one walk over the whole span leaves it, and ends
as that walk ends.  This holds on every sink, so also if a piece is cut short in either part.

Only the journals differ: two walks make two records of their start.  `Work.outcome` is what is left
if the journal is not looked at.  `Work.outcome_perform` says that it depends on the pieces that are
written and on nothing else, and `Walk.survey_add` that a survey can be cut.
-/

namespace CodeChart

namespace Work

variable {σ α : Type}

/-- How a computation has ended and the sink it leaves, whatever the journal holds. -/
def outcome : EStateM.Result Fault (Session σ) α → Except Fault α × σ
  | .ok value session => (.ok value, session.sink)
  | .error fault session => (.error fault, session.sink)

@[simp] theorem outcome_ofExcept (result : Except Fault α) (session : Session σ) :
    outcome (ofExcept result session) = (result, session.sink) := by
  cases result <;> rfl

/-- Computations of one outcome still have one outcome if they go on to the same result. -/
theorem outcome_bind_ofExcept {work other : Work σ Unit} {session session' : Session σ}
    (same : outcome (work session) = outcome (other session')) (result : Except Fault α) :
    outcome ((work >>= fun _ => ofExcept result) session) =
      outcome ((other >>= fun _ => ofExcept result) session') := by
  cases first : work session with
  | ok value after =>
    cases first' : other session' with
    | ok value' after' =>
      rw [first, first'] at same
      rw [bind_of_ok first, bind_of_ok first', outcome_ofExcept, outcome_ofExcept,
        (Prod.mk.inj same).2]
    | error fault after' =>
      rw [first, first'] at same
      exact nomatch (Prod.mk.inj same).1
  | error fault after =>
    cases first' : other session' with
    | ok value' after' =>
      rw [first, first'] at same
      exact nomatch (Prod.mk.inj same).1
    | error fault' after' =>
      rw [first, first'] at same
      obtain ⟨same, left⟩ := Prod.mk.inj same
      rw [bind_of_error first, bind_of_error first']
      simp only [outcome, left, Except.error.inj same]

namespace Action

/-- The pieces that the actions write. -/
def pieces : List Action → List String
  | [] => []
  | note _ :: rest => pieces rest
  | put piece :: rest => piece :: pieces rest

@[simp] theorem pieces_append (actions more : List Action) :
    pieces (actions ++ more) = pieces actions ++ pieces more := by
  induction actions with
  | nil => rfl
  | cons action rest ih => cases action <;> simp [pieces, ih]

end Action

variable [Sink σ]

/-- The outcome of actions is that of the pieces they write, whatever they record and whatever has
been recorded before. -/
theorem outcome_perform_map_put_pieces (actions : List Action) (sink : σ)
    (journal journal' : Journal) :
    outcome (perform actions ⟨sink, journal⟩) =
      outcome (perform ((Action.pieces actions).map .put) ⟨sink, journal'⟩) := by
  induction actions generalizing sink journal with
  | nil => rfl
  | cons action rest ih =>
    cases action with
    | note record => exact ih sink (journal.note record)
    | put piece =>
      rw [Action.pieces, List.map_cons, perform_put_cons, perform_put_cons]
      cases taken : Sink.write piece.toUTF8 sink with
      | ok _ after =>
        rw [bind_of_ok (put_of_ok journal taken), bind_of_ok (put_of_ok journal' taken)]
        exact ih after journal
      | error refusal after =>
        rw [bind_of_error (put_of_error journal taken), bind_of_error (put_of_error journal' taken)]
        rfl

/-- Actions that write the same pieces have the same outcome. -/
theorem outcome_perform {actions other : List Action}
    (same : Action.pieces actions = Action.pieces other) (sink : σ) (journal journal' : Journal) :
    outcome (perform actions ⟨sink, journal⟩) = outcome (perform other ⟨sink, journal'⟩) := by
  rw [outcome_perform_map_put_pieces actions sink journal journal', same]
  exact (outcome_perform_map_put_pieces other sink journal' journal').symm

end Work

namespace Walk

open Work

/-! ## Surveys in parts -/

/-- A survey of more points goes on behind those asked for first, if none of these is refused. -/
theorem survey_add (catalogue : Catalogue) {left : Nat} (more : Nat) {point next : Int64}
    (behind : next.toInt = point.toInt + left) :
    survey catalogue (left + more) point =
      let first := survey catalogue left point
      let rest := survey catalogue more next
      match first.absent? with
      | some absent => ⟨first.lines, some absent⟩
      | none => ⟨first.lines ++ rest.lines, rest.absent?⟩ := by
  induction left generalizing point with
  | zero =>
    obtain rfl : next = point := Int64.toInt_inj.1 (by omega)
    rw [Nat.zero_add]
    rfl
  | succ left ih =>
    rw [Nat.add_right_comm]
    cases found : catalogue point with
    | error absent =>
      rw [survey_of_error found, survey_of_error found]
    | ok line =>
      have last := next.toInt_lt
      have step : (point + 1).toInt = point.toInt + 1 := Span.toInt_add_one (by omega)
      have behind' : next.toInt = (point + 1).toInt + left := by omega
      rw [survey_of_ok found, survey_of_ok found, ih behind']
      dsimp only
      cases (survey catalogue left (point + 1)).absent? <;> rfl

/-- The pieces that the actions of a survey write are those of its lines. -/
theorem pieces_actions (span : Span) (survey : Survey) :
    Action.pieces (survey.actions span) =
      Action.pieces (survey.lines.flatMap Action.ofLine) := by
  rw [Survey.actions, List.cons_append, Action.pieces, Action.pieces_append]
  cases survey.ending 0 <;> simp [Action.pieces]

/-- A survey behind another one counts on from the lines of the first. -/
theorem ending_append (lines : List (Int64 × Line)) (rest : Survey) :
    Survey.ending ⟨lines ++ rest.lines, rest.absent?⟩ 0 =
      (rest.ending 0).map fun count => UInt64.ofNat lines.length + count := by
  rw [Survey.ending, Survey.ending]
  cases rest.absent? with
  | some absent => rfl
  | none => simp [Except.map, UInt64.ofNat_add]

variable {σ : Type} [Sink σ]

/-- The outcome of a walk is that of the lines of its survey, whatever is recorded. -/
theorem outcome_chart (catalogue : Catalogue) (span : Span) (sink : σ)
    (journal journal' : Journal) :
    let survey := survey catalogue span.size span.start
    outcome (chart catalogue span ⟨sink, journal⟩) =
      outcome ((perform (survey.lines.flatMap Action.ofLine) >>=
        fun _ => Work.ofExcept (survey.ending 0)) ⟨sink, journal'⟩) := by
  intro survey
  rw [chart_eq_perform]
  exact outcome_bind_ofExcept (outcome_perform (pieces_actions span survey) sink journal journal') _

/-! ## Walks in parts -/

/-- Walks over the points up to a middle one and, if that comes to its end, over those behind it up
to the stop.  The lines of both walks are counted together. -/
def chartInParts (catalogue : Catalogue) (start middle stop : Int64) : Work σ UInt64 := do
  let first ← chart catalogue ⟨start, middle⟩
  let rest ← chart catalogue ⟨middle + 1, stop⟩
  return first + rest

variable {catalogue : Catalogue} {start middle stop : Int64}

/-- A refusal of the catalogue in the first part ends the walk in parts. -/
theorem chartInParts_of_absent {absent : NoEntry}
    (stopped : (survey catalogue (Span.size ⟨start, middle⟩) start).absent? = some absent) :
    (chartInParts catalogue start middle stop : Work σ UInt64) =
      chart catalogue ⟨start, middle⟩ := by
  rw [chartInParts, chart_eq_perform, Survey.ending, stopped, bind_assoc]
  rfl

/-- Without a refusal in the first part, a walk in parts performs both surveys and counts the lines
of both. -/
theorem chartInParts_of_accepted
    (accepted : (survey catalogue (Span.size ⟨start, middle⟩) start).absent? = none) :
    let first := survey catalogue (Span.size ⟨start, middle⟩) start
    let rest := survey catalogue (Span.size ⟨middle + 1, stop⟩) (middle + 1)
    (chartInParts catalogue start middle stop : Work σ UInt64) =
      perform (first.actions ⟨start, middle⟩ ++ rest.actions ⟨middle + 1, stop⟩) >>= fun _ =>
        Work.ofExcept (Survey.ending ⟨first.lines ++ rest.lines, rest.absent?⟩ 0) := by
  intro first rest
  have counted : first.ending 0 = .ok (UInt64.ofNat first.lines.length) := by
    rw [Survey.ending, accepted, UInt64.zero_add]
  rw [chartInParts, chart_eq_perform, chart_eq_perform, counted, perform_append, ending_append]
  simp only [bind_assoc, Work.ofExcept, pure_bind]
  congr 1
  funext _
  congr 1
  funext _
  cases rest.ending 0 <;> rfl

/-- The points of a span are those of its parts. -/
theorem size_eq_add (low : start ≤ middle) (high : middle < stop) :
    (middle + 1).toInt = start.toInt + (Span.size ⟨start, middle⟩ : Nat) ∧
      Span.size ⟨start, stop⟩ = Span.size ⟨start, middle⟩ + Span.size ⟨middle + 1, stop⟩ := by
  have last := stop.toInt_lt
  rw [Int64.le_iff_toInt_le] at low
  rw [Int64.lt_iff_toInt_lt] at high
  have next : (middle + 1).toInt = middle.toInt + 1 := Span.toInt_add_one (by omega)
  simp only [Span.size]
  omega

/-- Walking in parts has the outcome of one walk. -/
theorem outcome_chartInParts (low : start ≤ middle) (high : middle < stop) (sink : σ)
    (journal journal' : Journal) :
    outcome (chartInParts catalogue start middle stop ⟨sink, journal⟩) =
      outcome (chart catalogue ⟨start, stop⟩ ⟨sink, journal'⟩) := by
  obtain ⟨behind, size⟩ := size_eq_add low high
  have cut := survey_add catalogue (Span.size ⟨middle + 1, stop⟩) behind
  rw [outcome_chart catalogue ⟨start, stop⟩ sink journal' journal]
  dsimp only
  rw [size, cut]
  cases stopped : (survey catalogue (Span.size ⟨start, middle⟩) start).absent? with
  | some absent =>
    rw [chartInParts_of_absent stopped,
      outcome_chart catalogue ⟨start, middle⟩ sink journal journal]
    simp only [stopped, Survey.ending]
  | none =>
    rw [chartInParts_of_accepted stopped]
    simp only [stopped]
    -- the two parts differ from the whole in their records alone
    refine outcome_bind_ofExcept (outcome_perform ?_ sink journal journal) _
    rw [Action.pieces_append, pieces_actions, pieces_actions, List.flatMap_append,
      Action.pieces_append]

/-- A walk that comes to its end ends as its survey. -/
theorem ending_of_chart_eq_ok {span : Span} {session after : Session σ} {count : UInt64}
    (ended : chart catalogue span session = .ok count after) :
    (survey catalogue span.size span.start).ending 0 = .ok count := by
  rw [chart_eq_perform] at ended
  cases performed : perform ((survey catalogue span.size span.start).actions span) session with
  | error fault between =>
    rw [bind_of_error performed] at ended
    exact nomatch ended
  | ok _ between =>
    rw [bind_of_ok performed] at ended
    have same : Work.ofExcept ((survey catalogue span.size span.start).ending 0) between =
        Work.ofExcept (.ok count) after := ended
    exact (Work.ofExcept_inj same).1

/-- A walk that comes to its end counts the points of its span. -/
theorem toNat_of_chart_eq_ok {span : Span} (proper : span ≠ ⟨Int64.minValue, Int64.maxValue⟩)
    {session after : Session σ} {count : UInt64}
    (ended : chart catalogue span session = .ok count after) : count.toNat = span.size := by
  have counted := ending_of_chart_eq_ok ended
  cases outcome : (survey catalogue span.size span.start).absent? with
  | some absent =>
    rw [Survey.ending, outcome] at counted
    exact absurd counted (by simp)
  | none =>
    rw [Survey.ending, outcome, (covers_of_absent?_eq_none outcome).2.1, UInt64.zero_add] at counted
    rw [← Except.ok.inj counted, toNat_ofNat_size proper]

/-- Cutting a span behind one of its points changes nothing.  On every sink, in whatever state it
is, walking over the points up to the cut and then, if that comes to its end, over those behind it
leaves the sink as one walk over the span leaves it, and ends as that walk ends: with the same fault
of the catalogue or of the sink, or with the number of lines, which is the sum of the numbers of the
two walks. -/
theorem chart_cut_anywhere (catalogue : Catalogue) {start middle stop : Int64}
    (low : start ≤ middle) (high : middle < stop)
    (proper : start ≠ Int64.minValue ∨ stop ≠ Int64.maxValue) (sink : σ) (journal : Journal) :
    outcome (chart catalogue ⟨start, stop⟩ ⟨sink, journal⟩) =
      (match chart catalogue ⟨start, middle⟩ ⟨sink, journal⟩ with
      | .error fault after => (.error fault, after.sink)
      | .ok first between =>
        match chart catalogue ⟨middle + 1, stop⟩ between with
        | .error fault after => (.error fault, after.sink)
        | .ok rest after => (.ok (first + rest), after.sink)) ∧
    ∀ (first rest : UInt64) (between after : Session σ),
      chart catalogue ⟨start, middle⟩ ⟨sink, journal⟩ = .ok first between →
      chart catalogue ⟨middle + 1, stop⟩ between = .ok rest after →
      (first + rest).toNat = first.toNat + rest.toNat := by
  constructor
  · rw [← outcome_chartInParts low high sink journal journal, chartInParts]
    cases walked : chart catalogue ⟨start, middle⟩ ⟨sink, journal⟩ with
    | error fault after => rw [bind_of_error walked, outcome]
    | ok first between =>
      rw [bind_of_ok walked]
      dsimp only
      cases walked' : chart catalogue ⟨middle + 1, stop⟩ between with
      | error fault after => rw [bind_of_error walked', outcome]
      | ok rest after =>
        rw [bind_of_ok walked']
        rfl
  · intro first rest between after walked walked'
    obtain ⟨behind, size⟩ := size_eq_add low high
    have whole : (⟨start, stop⟩ : Span) ≠ ⟨Int64.minValue, Int64.maxValue⟩ := by
      rintro ⟨⟩
      exact proper.elim (fun ne => ne rfl) (fun ne => ne rfl)
    have before : (⟨start, middle⟩ : Span) ≠ ⟨Int64.minValue, Int64.maxValue⟩ := by
      rintro ⟨⟩
      exact Int64.not_le.2 high (Int64.le_maxValue stop)
    have later : (⟨middle + 1, stop⟩ : Span) ≠ ⟨Int64.minValue, Int64.maxValue⟩ := by
      intro eq
      have least := start.le_toInt
      have first := congrArg (fun span => span.start.toInt) eq
      dsimp only at first
      rw [behind, Int64.toInt_minValue] at first
      have nonempty := mt (Span.size_eq_zero_iff ⟨start, middle⟩).1 (Int64.not_lt.2 low)
      omega
    have fits := toNat_ofNat_size whole
    rw [UInt64.toNat_ofNat'] at fits
    rw [UInt64.toNat_add, toNat_of_chart_eq_ok before walked, toNat_of_chart_eq_ok later walked',
      ← size, fits]

/-- A capture that is full in the middle of the line behind the cut, below the greatest point. -/
theorem chart_cut_before_limit :
    let session : Session Capture := ⟨⟨some 40, "kept".toUTF8⟩, Journal.empty .trace⟩
    (9223372036854775805 : Int64) ≤ 9223372036854775805 ∧
    (9223372036854775805 : Int64) < Int64.maxValue ∧
    ((9223372036854775805 : Int64) ≠ Int64.minValue ∨ Int64.maxValue ≠ Int64.maxValue) ∧
    ∃ between after,
      chart Catalogue.echo ⟨9223372036854775805, 9223372036854775805⟩ session = .ok 1 between ∧
      chart Catalogue.echo ⟨9223372036854775805 + 1, Int64.maxValue⟩ between =
        .error (.unwritten .cutShort) after ∧
      outcome (chart Catalogue.echo ⟨9223372036854775805, Int64.maxValue⟩ session) =
        (.error (.unwritten .cutShort), after.sink) := by
  intro session
  have low : (9223372036854775805 : Int64) ≤ 9223372036854775805 := by decide
  have high : (9223372036854775805 : Int64) < Int64.maxValue := by decide
  have proper : (9223372036854775805 : Int64) ≠ Int64.minValue ∨ Int64.maxValue ≠ Int64.maxValue :=
    .inl (by decide)
  have cut := (chart_cut_anywhere Catalogue.echo low high proper session.sink session.journal).1
  refine ⟨low, high, proper, _, _, rfl, rfl, ?_⟩
  exact cut

end Walk

end CodeChart
