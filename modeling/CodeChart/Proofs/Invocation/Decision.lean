import CodeChart.Proofs.Invocation.Values
import CodeChart.Proofs.Point.Numeral
import CodeChart.Proofs.Walk.Plan

/-!
# How an invocation ends

An invocation is decided in the order number of tokens, encoding, hyphens, numerals, and only then
the walk begins.  The lemmas here follow that order, from `run_of_length_ne` to `run_of_span_ok`,
and every ending before the walk leaves the session as it was.  `run_decides` puts them together.
-/

namespace CodeChart

namespace Span

/-- Two texts that spell points are read as the span between them. -/
theorem ofTokens_of_spells {start stop : String} {first last : Int64}
    (spelled : Point.Spells start first) (spelled' : Point.Spells stop last) :
    ofTokens [start, stop] = .ok ⟨first, last⟩ := by
  rw [ofTokens, pointOfToken, pointOfToken, Point.ofString_eq_ok_iff.2 spelled,
    Point.ofString_eq_ok_iff.2 spelled']
  rfl

/-- Of two texts the first is read before the second. -/
theorem ofTokens_of_error {start : String} {defect : Point.Defect}
    (read : Point.ofString start = .error defect) (stop : String) :
    ofTokens [start, stop] = .error (.unreadable start defect) := by
  rw [ofTokens, pointOfToken, read]
  rfl

/-- The second text is read if the first one spells a point. -/
theorem ofTokens_of_spells_of_error {start stop : String} {first : Int64} {defect : Point.Defect}
    (spelled : Point.Spells start first) (read : Point.ofString stop = .error defect) :
    ofTokens [start, stop] = .error (.unreadable stop defect) := by
  rw [ofTokens, pointOfToken, pointOfToken, Point.ofString_eq_ok_iff.2 spelled, read]
  rfl

end Span

namespace Invocation

variable {σ : Type} [Sink σ]

/-! ## The order of the checks -/

/-- The number of tokens is looked at before the tokens. -/
theorem run_of_length_ne {invocation : Invocation} (ne : invocation.arguments.length ≠ 2)
    (catalogue : Catalogue) (session : Session σ) :
    run invocation catalogue session =
      .error (.notTwoPoints invocation.arguments.length) session := by
  rw [run, if_neg ne]
  rfl

/-- Without a span there is no walk. -/
theorem run_of_span_error {invocation : Invocation} {fault : Fault}
    (two : invocation.arguments.length = 2) (refused : invocation.span = .error fault)
    (catalogue : Catalogue) (session : Session σ) :
    run invocation catalogue session = .error fault session := by
  rw [run, if_pos two, chart, refused]
  rfl

/-- A span is walked over. -/
theorem run_of_span_ok {invocation : Invocation} {span : Span}
    (two : invocation.arguments.length = 2) (found : invocation.span = .ok span)
    (catalogue : Catalogue) (session : Session σ) :
    run invocation catalogue session = Walk.chart catalogue span session := by
  rw [run, if_pos two, chart, found]
  rfl

/-- Tokens that are rejected make no span. -/
theorem span_of_values_error {invocation : Invocation} {rejection : Rejection}
    (rejected : values invocation.arguments = .error rejection) :
    invocation.span = .error (.rejected invocation.program rejection) := by
  rw [span, rejected]
  rfl

/-- Otherwise the values alone make the span. -/
theorem span_of_values_ok {invocation : Invocation} {texts : List String}
    (read : values invocation.arguments = .ok texts) :
    invocation.span = Span.ofTokens texts := by
  rw [span, read]
  rfl

/-- Two tokens that are UTF-8, of which the first is not `--`, make the span of their texts. -/
theorem span_of_texts {invocation : Invocation} {start stop : String}
    (texts : invocation.arguments = [start.toUTF8, stop.toUTF8]) (ne : start ≠ "--") :
    invocation.span = Span.ofTokens [start, stop] := by
  have read : values ([start, stop].map String.toUTF8) = .ok [start, stop] :=
    values_map_toUTF8 fun hyphens => ne (Option.some.inj hyphens)
  exact span_of_values_ok ((congrArg values texts).trans read)

/-- The path has no say in anything but the name in a rejection. -/
theorem run_ofTokens_cons (path other : Token) (arguments : List Token) (catalogue : Catalogue)
    (session : Session σ) :
    run (ofTokens (path :: arguments)) catalogue session =
        run (ofTokens (other :: arguments)) catalogue session ∨
      ∃ rejection,
        run (ofTokens (path :: arguments)) catalogue session =
          .error (.rejected (ofTokens (path :: arguments)).program rejection) session ∧
        run (ofTokens (other :: arguments)) catalogue session =
          .error (.rejected (ofTokens (other :: arguments)).program rejection) session := by
  by_cases two : arguments.length = 2
  · cases read : values arguments with
    | error rejection =>
      exact .inr ⟨rejection, run_of_span_error two (span_of_values_error read) catalogue session,
        run_of_span_error two (span_of_values_error read) catalogue session⟩
    | ok texts =>
      left
      cases spanned : Span.ofTokens texts with
      | error fault =>
        rw [run_of_span_error two ((span_of_values_ok read).trans spanned),
          run_of_span_error two ((span_of_values_ok read).trans spanned)]
      | ok span =>
        rw [run_of_span_ok two ((span_of_values_ok read).trans spanned),
          run_of_span_ok two ((span_of_values_ok read).trans spanned)]
  · left
    rw [run_of_length_ne two, run_of_length_ne two]
    rfl

/-! ## All endings -/

/-- Every call of the program ends in one of these ways, whatever the catalogue and the sink are.
If there are not two tokens behind the path, their number is told.  Otherwise, if one of them is not
UTF-8, the tokens are rejected.  Otherwise, if the first is `--`, one point is told.  Otherwise, the
first token that spells no point is told with its defect.  Otherwise the call is the walk between
the two points.  Before the walk nothing is written and nothing recorded, and the path has no say in
anything but the name in a rejection. -/
theorem run_decides (catalogue : Catalogue) (session : Session σ) :
    (∀ tokens : List Token, tokens.length - 1 ≠ 2 →
      run (ofTokens tokens) catalogue session =
        .error (.notTwoPoints (tokens.length - 1)) session) ∧
    (∀ path first second : Token, ¬ (first.IsValidUTF8 ∧ second.IsValidUTF8) →
      ∃ rejection, run (ofTokens [path, first, second]) catalogue session =
        .error (.rejected (ofTokens [path, first, second]).program rejection) session) ∧
    (∀ path second : Token, second.IsValidUTF8 →
      run (ofTokens [path, "--".toUTF8, second]) catalogue session =
        .error (.notTwoPoints 1) session) ∧
    (∀ (path : Token) (start stop : String), start ≠ "--" →
      (¬ ∃ first, Point.Spells start first) →
      ∃ defect, Point.ofString start = .error defect ∧
        run (ofTokens [path, start.toUTF8, stop.toUTF8]) catalogue session =
          .error (.unreadable start defect) session) ∧
    (∀ (path : Token) (start stop : String) (first : Int64), Point.Spells start first →
      (¬ ∃ last, Point.Spells stop last) →
      ∃ defect, Point.ofString stop = .error defect ∧
        run (ofTokens [path, start.toUTF8, stop.toUTF8]) catalogue session =
          .error (.unreadable stop defect) session) ∧
    (∀ (path : Token) (start stop : String) (first last : Int64), Point.Spells start first →
      Point.Spells stop last →
      run (ofTokens [path, start.toUTF8, stop.toUTF8]) catalogue session =
        Walk.chart catalogue ⟨first, last⟩ session) ∧
    ∀ (path other : Token) (arguments : List Token),
      run (ofTokens (path :: arguments)) catalogue session =
          run (ofTokens (other :: arguments)) catalogue session ∨
        ∃ rejection,
          run (ofTokens (path :: arguments)) catalogue session =
            .error (.rejected (ofTokens (path :: arguments)).program rejection) session ∧
          run (ofTokens (other :: arguments)) catalogue session =
            .error (.rejected (ofTokens (other :: arguments)).program rejection) session := by
  refine ⟨fun tokens ne => ?_, fun path first second invalid => ?_, fun path second valid => ?_,
    fun path start stop ne unspelled => ?_, fun path start stop first spelled unspelled => ?_,
    fun path start stop first last spelled spelled' => ?_, fun path other arguments =>
    run_ofTokens_cons path other arguments catalogue session⟩
  · cases tokens with
    | nil => exact run_of_length_ne (show [].length ≠ 2 by decide) catalogue session
    | cons path arguments =>
      rw [List.length_cons, Nat.add_sub_cancel] at ne ⊢
      exact run_of_length_ne ne catalogue session
  · obtain ⟨rejection, rejected⟩ : ∃ rejection, values [first, second] = .error rejection := by
      rcases Decidable.not_and_iff_or_not.1 invalid with invalid | invalid
      · exact exists_rejection_of_mem_not_valid List.mem_cons_self invalid
      · exact exists_rejection_of_mem_not_valid
          (List.mem_cons_of_mem _ List.mem_cons_self) invalid
    exact ⟨rejection, run_of_span_error rfl (span_of_values_error rejected) catalogue session⟩
  · obtain ⟨stop, rfl⟩ := Text.Utf8.exists_text_of_isValidUTF8 valid
    have read : values ["--".toUTF8, stop.toUTF8] = .ok [stop] := by
      rw [values_hyphens_cons]
      exact decode_map_toUTF8 [stop]
    have single : Span.ofTokens [stop] = .error (.notTwoPoints 1) := rfl
    exact run_of_span_error rfl ((span_of_values_ok read).trans single) catalogue session
  · obtain ⟨defect, read⟩ := Point.exists_defect unspelled
    exact ⟨defect, read, run_of_span_error rfl
      ((span_of_texts rfl ne).trans (Span.ofTokens_of_error read stop)) catalogue session⟩
  · obtain ⟨defect, read⟩ := Point.exists_defect unspelled
    exact ⟨defect, read, run_of_span_error rfl ((span_of_texts rfl spelled.ne_hyphens).trans
      (Span.ofTokens_of_spells_of_error spelled read)) catalogue session⟩
  · exact run_of_span_ok rfl ((span_of_texts rfl spelled.ne_hyphens).trans
      (Span.ofTokens_of_spells spelled spelled')) catalogue session

end Invocation

end CodeChart
