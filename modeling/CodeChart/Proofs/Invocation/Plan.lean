import CodeChart.Proofs.Invocation.Decision
import CodeChart.Proofs.Walk.Overflow
import Mathlib.Data.List.Basic

/-!
# What a call sets out to do

Before it writes anything, a call has a span to walk over or has ended in a fault.  This `decision`
follows from the tokens alone, and `decision_eq_ok_iff` says which tokens make a span: two texts
that spell its points.

The walk behind the decision follows from the catalogue, so a call as a whole is a list of actions
and an ending, its `plan`.  `run_eq_perform` says that a call performs its plan on every sink, and
`run_of_accepts` what that comes to where every piece is taken.
-/

namespace CodeChart

/-! ## Two texts -/

namespace Span

/-- Two texts are read as a span whose points they spell, or one of them is told with its defect. -/
theorem ofTokens_pair (start stop : String) :
    (∃ span, ofTokens [start, stop] = .ok span ∧ Point.Spells start span.start ∧
        Point.Spells stop span.stop) ∨
      ∃ token defect, ofTokens [start, stop] = .error (.unreadable token defect) := by
  cases first : Point.ofString start with
  | error defect => exact .inr ⟨start, defect, ofTokens_of_error first stop⟩
  | ok point =>
    have spelled := Point.ofString_eq_ok_iff.1 first
    cases second : Point.ofString stop with
    | error defect => exact .inr ⟨stop, defect, ofTokens_of_spells_of_error spelled second⟩
    | ok other =>
      have spelled' := Point.ofString_eq_ok_iff.1 second
      exact .inl ⟨⟨point, other⟩, ofTokens_of_spells spelled spelled', spelled, spelled'⟩

/-- Two texts are read as a span exactly if they spell its points. -/
theorem ofTokens_eq_ok_iff {start stop : String} {span : Span} :
    ofTokens [start, stop] = .ok span ↔
      Point.Spells start span.start ∧ Point.Spells stop span.stop := by
  constructor
  · intro read
    rcases ofTokens_pair start stop with ⟨other, found, spelled⟩ | ⟨token, defect, unread⟩
    · obtain rfl := Except.ok.inj (found.symm.trans read)
      exact spelled
    · exact nomatch unread.symm.trans read
  · rintro ⟨spelled, spelled'⟩
    exact ofTokens_of_spells spelled spelled'

/-- Texts that are not read as a span are not two, or one of them is told with its defect. -/
theorem fault_of_ofTokens_eq_error {texts : List String} {fault : Fault}
    (unread : ofTokens texts = .error fault) :
    (∃ given, fault = .notTwoPoints given) ∨ ∃ token defect, fault = .unreadable token defect := by
  by_cases two : texts.length = 2
  · obtain ⟨start, stop, rfl⟩ := List.length_eq_two.1 two
    rcases ofTokens_pair start stop with ⟨span, found, -⟩ | ⟨token, defect, told⟩
    · exact nomatch found.symm.trans unread
    · exact .inr ⟨token, defect, Except.error.inj (unread.symm.trans told)⟩
  · unfold ofTokens at unread
    split at unread
    · exact absurd rfl two
    · exact .inl ⟨_, (Except.error.inj unread).symm⟩

end Span

namespace Invocation

open Work (Action perform)

variable {σ : Type} [Sink σ]

/-! ## Before the walk -/

/-- The span that a call walks over, or the fault in which it ends before the walk. -/
def decision (invocation : Invocation) : Except Fault Span :=
  if invocation.arguments.length = 2 then invocation.span
  else .error (.notTwoPoints invocation.arguments.length)

/-- Of two texts `--` in front is dropped; all others are read. -/
theorem decision_of_texts {invocation : Invocation} {start stop : String}
    (texts : invocation.arguments = [start.toUTF8, stop.toUTF8]) :
    invocation.decision =
      if start = "--" then .error (.notTwoPoints 1) else Span.ofTokens [start, stop] := by
  have two : invocation.arguments.length = 2 := by rw [texts]; rfl
  rw [decision, if_pos two]
  by_cases hyphens : start = "--"
  · have read : values invocation.arguments = .ok [stop] := by
      rw [texts, hyphens]
      exact values_hyphens_texts [stop]
    rw [if_pos hyphens, span_of_values_ok read]
    rfl
  · rw [if_neg hyphens, span_of_texts texts hyphens]

/-- The tokens are two texts that spell the points of the span. -/
def SpellSpan (arguments : List Token) (span : Span) : Prop :=
  ∃ start stop : String, arguments = [start.toUTF8, stop.toUTF8] ∧
    Point.Spells start span.start ∧ Point.Spells stop span.stop

/-- A call has a span exactly if its tokens spell the points of the span. -/
theorem decision_eq_ok_iff {invocation : Invocation} {span : Span} :
    invocation.decision = .ok span ↔ SpellSpan invocation.arguments span := by
  constructor
  · intro decided
    have two : invocation.arguments.length = 2 := by
      by_contra ne
      rw [decision, if_neg ne] at decided
      exact absurd decided (by simp)
    -- a token that is not UTF-8 would have been rejected
    have valid : ∀ token ∈ invocation.arguments, token.IsValidUTF8 := by
      intro token mem
      by_contra invalid
      obtain ⟨rejection, rejected⟩ := exists_rejection_of_mem_not_valid mem invalid
      rw [decision, if_pos two, span_of_values_error rejected] at decided
      exact absurd decided (by simp)
    obtain ⟨first, second, pair⟩ := List.length_eq_two.1 two
    rw [pair] at valid
    obtain ⟨start, rfl⟩ := Text.Utf8.exists_text_of_isValidUTF8 (valid first (by simp))
    obtain ⟨stop, rfl⟩ := Text.Utf8.exists_text_of_isValidUTF8 (valid second (by simp))
    refine ⟨start, stop, pair, ?_⟩
    rw [decision_of_texts pair] at decided
    split at decided
    · exact absurd decided (by simp)
    · exact Span.ofTokens_eq_ok_iff.1 decided
  · rintro ⟨start, stop, pair, spelled, spelled'⟩
    rw [decision_of_texts pair, if_neg spelled.ne_hyphens]
    exact Span.ofTokens_eq_ok_iff.2 ⟨spelled, spelled'⟩

/-- Before the walk no sink has refused anything. -/
theorem decision_ne_unwritten (invocation : Invocation) (refusal : Refusal) :
    invocation.decision ≠ .error (.unwritten refusal) := by
  intro decided
  rw [decision] at decided
  split at decided
  · cases read : values invocation.arguments with
    | error rejection => exact nomatch (span_of_values_error read).symm.trans decided
    | ok texts =>
      rw [span_of_values_ok read] at decided
      rcases Span.fault_of_ofTokens_eq_error decided with ⟨_, eq⟩ | ⟨_, _, eq⟩ <;> exact nomatch eq
  · exact nomatch decided

/-- A call decides, and then walks if it has a span. -/
theorem run_eq_decision (invocation : Invocation) (catalogue : Catalogue) :
    (run invocation catalogue : Work σ UInt64) =
      Work.ofExcept invocation.decision >>= Walk.chart catalogue := by
  rw [run, decision]
  split
  · rfl
  · rfl

/-! ## The whole call -/

/-- What a call does, and how it ends if the sink takes everything. -/
structure Plan where
  /-- The records and pieces, in order. -/
  actions : List Action
  /-- The number of lines, or the fault. -/
  ending : Except Fault UInt64

/-- The plan of a call: nothing but a fault, or a walk. -/
def plan (invocation : Invocation) (catalogue : Catalogue) : Plan :=
  match invocation.decision with
  | .error fault => ⟨[], .error fault⟩
  | .ok span =>
    let survey := Walk.survey catalogue span.size span.start
    ⟨survey.actions span, survey.ending 0⟩

theorem plan_of_error {invocation : Invocation} {fault : Fault}
    (refused : invocation.decision = .error fault) (catalogue : Catalogue) :
    invocation.plan catalogue = ⟨[], .error fault⟩ := by
  rw [plan, refused]

theorem plan_of_ok {invocation : Invocation} {span : Span}
    (found : invocation.decision = .ok span) (catalogue : Catalogue) :
    invocation.plan catalogue =
      ⟨(Walk.survey catalogue span.size span.start).actions span,
        (Walk.survey catalogue span.size span.start).ending 0⟩ := by
  rw [plan, found]

/-- The bytes that a call writes if the sink takes everything. -/
def Plan.output (plan : Plan) : ByteArray :=
  (Action.text plan.actions).toUTF8

/-- A planned fault is decided before the walk, unless it is a refused point. -/
theorem ending_plan_eq_error_iff {invocation : Invocation} {catalogue : Catalogue} {fault : Fault}
    (present : ∀ absent, fault ≠ .noEntry absent) :
    (invocation.plan catalogue).ending = .error fault ↔ invocation.decision = .error fault := by
  cases decided : invocation.decision with
  | error other => simp only [plan_of_error decided, Except.error.injEq]
  | ok span =>
    rw [plan_of_ok decided, Walk.Survey.ending]
    refine iff_of_false (fun ends => ?_) (by simp)
    split at ends
    · next absent _ => exact present absent (Except.error.inj ends).symm
    · exact absurd ends (by simp)

/-- No plan ends in the refusal of a sink. -/
theorem ending_plan_ne_unwritten (invocation : Invocation) (catalogue : Catalogue)
    (refusal : Refusal) : (invocation.plan catalogue).ending ≠ .error (.unwritten refusal) := by
  rw [Ne, ending_plan_eq_error_iff fun _ => Fault.noConfusion]
  exact decision_ne_unwritten invocation refusal

/-- A call that tells the number of points has not begun to walk. -/
theorem output_plan_of_notTwoPoints {invocation : Invocation} {catalogue : Catalogue} {given : Nat}
    (ends : (invocation.plan catalogue).ending = .error (.notTwoPoints given)) :
    (invocation.plan catalogue).output = .empty := by
  rw [plan_of_error ((ending_plan_eq_error_iff fun _ => Fault.noConfusion).1 ends)]
  rfl

/-- A call succeeds exactly if it has a span and no point of the span is refused. -/
theorem ending_plan_eq_ok_iff {invocation : Invocation} {catalogue : Catalogue} :
    (∃ lines, (invocation.plan catalogue).ending = .ok lines) ↔
      ∃ span, invocation.decision = .ok span ∧ catalogue.Covers span := by
  constructor
  · rintro ⟨lines, ends⟩
    cases decided : invocation.decision with
    | error fault =>
      rw [plan_of_error decided] at ends
      exact absurd ends (by simp)
    | ok span =>
      refine ⟨span, rfl, (Walk.covers_of_absent?_eq_none ?_).1⟩
      rw [plan_of_ok decided, Walk.Survey.ending] at ends
      split at ends
      · exact absurd ends (by simp)
      · next accepted => exact accepted
  · rintro ⟨span, decided, covers⟩
    obtain ⟨accepted, -, -⟩ := Walk.survey_of_covers covers
    rw [plan_of_ok decided, Walk.Survey.ending, accepted]
    exact ⟨_, rfl⟩

/-- If the output fits the buffer, no piece fills it by itself. -/
theorem size_piece_lt {invocation : Invocation} {catalogue : Catalogue}
    (fits : (invocation.plan catalogue).output.size ≤ Buffered.capacity) (piece : String)
    (mem : .put piece ∈ (invocation.plan catalogue).actions) :
    piece.toUTF8.size < Buffered.capacity := by
  cases decided : invocation.decision with
  | error fault =>
    rw [plan_of_error decided] at mem
    exact absurd mem List.not_mem_nil
  | ok span =>
    rw [plan_of_ok decided, Plan.output, Walk.Survey.text_actions] at fits
    rw [plan_of_ok decided] at mem
    exact Walk.Survey.size_piece_lt fits mem

/-- How the lines are cut into pieces has no part in the output and in the ending. -/
theorem plan_of_sameTexts {catalogue other : Catalogue} (same : catalogue.SameTexts other)
    (invocation : Invocation) :
    (invocation.plan catalogue).output = (invocation.plan other).output ∧
      (invocation.plan catalogue).ending = (invocation.plan other).ending := by
  cases decided : invocation.decision with
  | error fault =>
    rw [plan_of_error decided, plan_of_error decided]
    exact ⟨rfl, rfl⟩
  | ok span =>
    obtain ⟨absent, lines⟩ := Walk.survey_of_sameTexts same span.size span.start
    have length := congrArg List.length lines
    rw [List.length_map, List.length_map] at length
    rw [plan_of_ok decided, plan_of_ok decided]
    constructor
    · rw [Plan.output, Plan.output, Walk.Survey.text_actions, Walk.Survey.text_actions,
        Walk.printed_eq_ended, Walk.printed_eq_ended, lines]
    · rw [Walk.Survey.ending, Walk.Survey.ending, absent, length]

/-- A call performs its plan. -/
theorem run_eq_perform (invocation : Invocation) (catalogue : Catalogue) :
    (run invocation catalogue : Work σ UInt64) =
      perform (invocation.plan catalogue).actions >>=
        fun _ => Work.ofExcept (invocation.plan catalogue).ending := by
  rw [run_eq_decision]
  cases decided : invocation.decision with
  | error fault =>
    rw [plan_of_error decided]
    rfl
  | ok span =>
    rw [plan_of_ok decided]
    exact Walk.chart_eq_perform catalogue span

/-- Where every piece is taken, a call takes down its output and ends as its plan says. -/
theorem run_of_accepts {opened : σ → Prop} {view : σ → ByteArray}
    (accepts : Sink.Accepts opened view) (invocation : Invocation) (catalogue : Catalogue)
    (sink : σ) (isOpen : opened sink) (journal : Journal) :
    ∃ after : Session σ,
      run invocation catalogue ⟨sink, journal⟩ =
        Work.ofExcept (invocation.plan catalogue).ending after ∧
      opened after.sink ∧
      view after.sink = view sink ++ (invocation.plan catalogue).output := by
  obtain ⟨after, performed, isOpen', behind⟩ :=
    Work.perform_of_accepts accepts (invocation.plan catalogue).actions isOpen journal
  have ran := Work.bind_of_ok performed fun _ => Work.ofExcept (invocation.plan catalogue).ending
  rw [← run_eq_perform] at ran
  exact ⟨_, ran, isOpen', behind⟩

end Invocation

end CodeChart
