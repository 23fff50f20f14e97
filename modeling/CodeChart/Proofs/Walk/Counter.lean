import CodeChart.Proofs.Walk.Accepting

/-!
# The counter of a walk

The steps of a walk count its lines in a word.  A `Round` is one turn of the steps: the catalogue
has a line for the point, the sink takes the line, and the counter goes up by one.  `Rounds` counts
the turns with a number instead, which never runs out.

A round leaves what the walk still comes to as it is (`rest_of_round`), so any number of rounds does
(`rest_of_rounds`), and the counter is their number as a word (`written_of_rounds`).  A walk that
comes to its end has made as many rounds as its span has points (`rounds_of_rest_eq_ok`).  There is
just one span with more points than a word can count, the span of all points (`Span.size_all`,
`Span.size_lt_of_ne`).
`counter_fits_iff` concludes that the counter tells the number of lines at every moment, on any
catalogue and any sink, unless a walk over all points there are comes to its end.
-/

namespace CodeChart

namespace Span

/-- The span of all points has as many points as there are words. -/
theorem size_all : (⟨Int64.minValue, Int64.maxValue⟩ : Span).size = 0x10000000000000000 := by
  decide

/-- No other span has so many. -/
theorem size_lt_of_ne {span : Span} (proper : span ≠ ⟨Int64.minValue, Int64.maxValue⟩) :
    span.size < 0x10000000000000000 := by
  rw [← Walk.toNat_ofNat_size proper]
  exact UInt64.toNat_lt _

theorem size_le (span : Span) : span.size ≤ 0x10000000000000000 := by
  by_cases all : span = ⟨Int64.minValue, Int64.maxValue⟩
  · exact Nat.le_of_eq (all ▸ size_all)
  · exact Nat.le_of_lt (size_lt_of_ne all)

end Span

namespace Walk

variable {σ : Type} [Sink σ]

/-! ## Rounds -/

/-- Where the steps of a walk stand. -/
structure Position (σ : Type) where
  /-- How many points are left. -/
  left : Nat
  /-- The next point. -/
  point : Int64
  /-- The counter of the lines. -/
  written : UInt64
  /-- What the lines are written to. -/
  session : Session σ

namespace Position

/-- The walk over a span has made the record of its start. -/
def start (span : Span) (session : Session σ) : Position σ :=
  ⟨span.size, span.start, 0,
    ⟨session.sink, session.journal.note (.started span.start span.stop)⟩⟩

/-- What the steps still come to. -/
def rest (catalogue : Catalogue) (position : Position σ) :
    EStateM.Result Fault (Session σ) UInt64 :=
  steps catalogue position.left position.point position.written position.session

end Position

/-- A point has a line, the line is recorded and taken by the sink whole, and it is counted. -/
inductive Round (catalogue : Catalogue) : Position σ → Position σ → Prop
  | line {left : Nat} {point : Int64} {written : UInt64} {sink : σ} {journal : Journal}
      {line : Line} {after : Session σ} (resolved : catalogue point = .ok line)
      (taken : Work.putLine line ⟨sink, journal.note (.resolved point line)⟩ = .ok () after) :
      Round catalogue ⟨left + 1, point, written, ⟨sink, journal⟩⟩
        ⟨left, point + 1, written + 1, after⟩

/-- As many rounds as the number says, one after the other. -/
inductive Rounds (catalogue : Catalogue) : Nat → Position σ → Position σ → Prop
  | none (position : Position σ) : Rounds catalogue 0 position position
  | more {count : Nat} {position next after : Position σ} (round : Round catalogue position next)
      (rounds : Rounds catalogue count next after) : Rounds catalogue (count + 1) position after

variable {catalogue : Catalogue} {count : Nat} {position after : Position σ}

/-- What the steps come to is what they still come to behind a round. -/
theorem rest_of_round (round : Round catalogue position after) :
    position.rest catalogue = after.rest catalogue := by
  cases round with
  | line resolved taken =>
    rw [Position.rest, steps_of_ok resolved, EStateM.bind, taken]
    rfl

theorem rest_of_rounds (rounds : Rounds catalogue count position after) :
    position.rest catalogue = after.rest catalogue := by
  induction rounds with
  | none => rfl
  | more round _ ih => rw [rest_of_round round, ih]

/-- A round is made for a point. -/
theorem left_of_rounds (rounds : Rounds catalogue count position after) :
    position.left = after.left + count := by
  induction rounds with
  | none => rfl
  | more round _ ih =>
    cases round with
    | line => rw [← Nat.add_assoc, ← ih]

/-- A round is counted, in a word. -/
theorem written_of_rounds (rounds : Rounds catalogue count position after) :
    after.written = position.written + UInt64.ofNat count := by
  induction rounds with
  | none => exact (UInt64.add_zero _).symm
  | more round _ ih =>
    cases round with
    | line =>
      rw [ih, UInt64.ofNat_add, UInt64.add_assoc, UInt64.add_comm 1]
      rfl

/-- Steps that come to their end have made a round for each point that was left. -/
theorem rounds_of_rest_eq_ok {written : UInt64} {session : Session σ}
    (ended : position.rest catalogue = .ok written session) :
    ∃ point, Rounds catalogue position.left position ⟨0, point, written, session⟩ := by
  obtain ⟨left, point, before, ⟨sink, journal⟩⟩ := position
  induction left generalizing point before sink journal with
  | zero =>
    obtain ⟨rfl, rfl⟩ := EStateM.Result.ok.inj ended
    exact ⟨point, .none _⟩
  | succ left ih =>
    rw [Position.rest] at ended
    cases resolved : catalogue point with
    | error absent =>
      rw [steps_of_error resolved] at ended
      exact nomatch ended
    | ok line =>
      rw [steps_of_ok resolved, EStateM.bind] at ended
      cases taken : Work.putLine line ⟨sink, journal.note (.resolved point line)⟩ with
      | error fault after =>
        rw [taken] at ended
        exact nomatch ended
      | ok _ after =>
        rw [taken] at ended
        obtain ⟨last, rounds⟩ := ih _ _ _ _ ended
        exact ⟨last, .more (.line resolved taken) rounds⟩

/-! ## The counter -/

/-- A walk comes to its end exactly if its steps do, and returns their counter. -/
theorem chart_eq_ok_iff {span : Span} {session : Session σ} {written : UInt64} :
    (∃ after, chart catalogue span session = .ok written after) ↔
      ∃ after, (Position.start span session).rest catalogue = .ok written after := by
  have walk : chart catalogue span session =
      EStateM.bind (steps catalogue span.size span.start 0)
        (fun written => EStateM.bind (Work.note (.finished written)) fun _ => pure written)
        (Position.start span session).session := rfl
  rw [walk, EStateM.bind, Position.rest]
  show _ ↔ ∃ after, steps catalogue span.size span.start 0 _ = .ok written after
  cases steps catalogue span.size span.start 0 (Position.start span session).session with
  | error fault after =>
    exact iff_of_false (fun ⟨_, ended⟩ => nomatch ended) (fun ⟨_, ended⟩ => nomatch ended)
  | ok value after =>
    constructor
    · rintro ⟨_, ended⟩
      obtain ⟨rfl, -⟩ := EStateM.Result.ok.inj ended
      exact ⟨after, rfl⟩
    · rintro ⟨_, ended⟩
      obtain ⟨rfl, -⟩ := EStateM.Result.ok.inj ended
      exact ⟨_, rfl⟩

/-- Steps that have made a round for each point return their counter. -/
theorem rest_of_all_rounds (rounds : Rounds catalogue position.left position after) :
    position.rest catalogue = .ok after.written after.session := by
  have left := left_of_rounds rounds
  have none_left : after.left = 0 := by omega
  rw [rest_of_rounds rounds, Position.rest, none_left, steps_zero]

variable {span : Span} {session : Session σ}

/-- From its start a walk makes at most a round for each point, and counts them in a word. -/
theorem written_of_rounds_start (rounds : Rounds catalogue count (.start span session) position) :
    count ≤ span.size ∧ position.written = UInt64.ofNat count := by
  have left : span.size = position.left + count := left_of_rounds rounds
  have written := written_of_rounds rounds
  exact ⟨by omega, written.trans (UInt64.zero_add _)⟩

/-- A walk that comes to its end has made a round for each point, and returns their number as a
word. -/
theorem rounds_of_chart_eq_ok {written : UInt64} {after : Session σ}
    (ended : chart catalogue span session = .ok written after) :
    ∃ position, Rounds catalogue span.size (.start span session) position ∧
      position.written = written ∧ written = UInt64.ofNat span.size := by
  obtain ⟨_, rest⟩ := chart_eq_ok_iff.1 ⟨after, ended⟩
  obtain ⟨_, rounds⟩ := rounds_of_rest_eq_ok rest
  exact ⟨_, rounds, rfl, (written_of_rounds_start rounds).2⟩

/-- On any catalogue and any sink, a walk makes no more rounds than there are points in its span.
At every moment the counter is the number of rounds as a word, and the walk comes to what its steps
still come to from there.  A walk that comes to its end has made a round for each point and returns
their number as a word.  The number of rounds fits the counter, which then tells it, exactly if it
is not a walk over all points there are that comes to its end. -/
theorem counter_fits_iff (catalogue : Catalogue) (span : Span) (session : Session σ) :
    (∀ count position, Rounds catalogue count (.start span session) position →
      count ≤ span.size ∧ position.written = UInt64.ofNat count ∧
        (Position.start span session).rest catalogue = position.rest catalogue) ∧
    (∀ written after, chart catalogue span session = .ok written after →
      written = UInt64.ofNat span.size ∧
        ∃ position, Rounds catalogue span.size (.start span session) position) ∧
    ((∀ count position, Rounds catalogue count (.start span session) position →
        count ≤ 0xFFFFFFFFFFFFFFFF ∧ position.written.toNat = count) ↔
      ¬ (span = ⟨Int64.minValue, Int64.maxValue⟩ ∧
        ∃ written after, chart catalogue span session = .ok written after)) := by
  refine ⟨fun count position rounds => ?_, fun written after ended => ?_, ?_⟩
  · obtain ⟨few, written⟩ := written_of_rounds_start rounds
    exact ⟨few, written, rest_of_rounds rounds⟩
  · obtain ⟨position, rounds, -, returned⟩ := rounds_of_chart_eq_ok ended
    exact ⟨returned, position, rounds⟩
  constructor
  · rintro fits ⟨rfl, written, after, ended⟩
    obtain ⟨position, rounds, -⟩ := rounds_of_chart_eq_ok ended
    have few := (fits _ _ rounds).1
    rw [Span.size_all] at few
    exact absurd few (by decide)
  · intro short count position rounds
    obtain ⟨few, written⟩ := written_of_rounds_start rounds
    have below : count < 0x10000000000000000 := by
      by_cases all : span = ⟨Int64.minValue, Int64.maxValue⟩
      · -- a round for each of all points would bring the walk to its end
        refine Nat.lt_of_le_of_ne (Nat.le_trans few span.size_le) fun many => short ⟨all, ?_⟩
        have size : count = span.size := many.trans (all ▸ Span.size_all.symm)
        exact ⟨_, chart_eq_ok_iff.2 ⟨_, rest_of_all_rounds (size ▸ rounds)⟩⟩
      · exact Nat.lt_of_le_of_lt few (Span.size_lt_of_ne all)
    refine ⟨Nat.le_sub_one_of_lt below, ?_⟩
    rw [written, UInt64.toNat_ofNat', Nat.mod_eq_of_lt below]

/-- A walk over all points there are, on a catalogue that refuses none and a sink that takes
everything, makes one round more than the counter can tell, and returns zero. -/
theorem counter_runs_out_over_all_points :
    let all : Span := ⟨Int64.minValue, Int64.maxValue⟩
    let session : Session Capture := ⟨Capture.empty none, Journal.empty .off⟩
    (∃ after, chart Catalogue.echo all session = .ok 0 after) ∧
    ∃ position, Rounds Catalogue.echo 0x10000000000000000 (.start all session) position ∧
      ¬ 0x10000000000000000 ≤ 0xFFFFFFFFFFFFFFFF ∧
      position.written.toNat ≠ 0x10000000000000000 := by
  intro all session
  have covers : Catalogue.echo.Covers all := fun _ _ _ => ⟨_, rfl⟩
  obtain ⟨accepted, length, -⟩ := survey_of_covers covers
  obtain ⟨after, walked, -⟩ :=
    chart_of_accepts Capture.accepts Catalogue.echo all session.sink rfl session.journal
  have zero : (survey Catalogue.echo all.size all.start).ending 0 = .ok 0 := by
    rw [Survey.ending, accepted, length, Span.size_all]
    rfl
  rw [zero] at walked
  obtain ⟨position, rounds, written, -⟩ := rounds_of_chart_eq_ok walked
  rw [Span.size_all] at rounds
  refine ⟨⟨after, walked⟩, position, rounds, by decide, ?_⟩
  rw [written]
  decide

end Walk

end CodeChart
