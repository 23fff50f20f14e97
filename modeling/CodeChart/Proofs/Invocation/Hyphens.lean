import CodeChart.Entry
import CodeChart.Proofs.Invocation.Count

/-!
# Two tokens as two points

A call with two tokens that are texts is meant to read both as points and to walk between them.  It
does so with hyphens anywhere in the tokens, but not if the first token is `--`: that token is
dropped after the tokens have been counted, and the other one is then told to be alone.
`run_reads_both_iff` says that there is no other exception, on any catalogue and any sink.
-/

namespace CodeChart.Invocation

variable {σ : Type} [Sink σ]

/-- The walk over two texts never tells a number of points. -/
theorem walkOver_pair_ne_notTwoPoints {catalogue : Catalogue} {start stop : String}
    {session after : Session σ} {given : Nat} :
    walkOver catalogue [start, stop] session ≠ .error (.notTwoPoints given) after := by
  intro ended
  have not_two := (walkOver_eq_notTwoPoints_iff.1 ended).1
  exact not_two rfl

/-- A first token `--` is dropped, and one point is left. -/
theorem run_hyphens (path : Token) (stop : String) (catalogue : Catalogue) (session : Session σ) :
    run (ofTokens [path, "--".toUTF8, stop.toUTF8]) catalogue session =
      .error (.notTwoPoints 1) session := by
  have decided : (ofTokens [path, "--".toUTF8, stop.toUTF8]).decision =
      .error (.notTwoPoints 1) := (decision_of_texts rfl).trans (if_pos rfl)
  rw [run_eq_decision, decided]
  rfl

/-- Any other two texts are read, and then walked between. -/
theorem run_of_ne_hyphens (path : Token) {start : String} (ne : start ≠ "--") (stop : String)
    (catalogue : Catalogue) (session : Session σ) :
    run (ofTokens [path, start.toUTF8, stop.toUTF8]) catalogue session =
      walkOver catalogue [start, stop] session := by
  have decided : (ofTokens [path, start.toUTF8, stop.toUTF8]).decision =
      Span.ofTokens [start, stop] := (decision_of_texts rfl).trans (if_neg ne)
  rw [run_eq_decision, decided, walkOver]

/-- A call with two texts as tokens is the walk between them, with the same result, output and
records, exactly if the first text is not `--`; and exactly then it does not tell a number of
points, although two are given. -/
theorem run_reads_both_iff (path : Token) (start stop : String) (catalogue : Catalogue)
    (session : Session σ) :
    (run (ofTokens [path, start.toUTF8, stop.toUTF8]) catalogue session =
        walkOver catalogue [start, stop] session ↔ start ≠ "--") ∧
    ((∀ given after, run (ofTokens [path, start.toUTF8, stop.toUTF8]) catalogue session ≠
        .error (.notTwoPoints given) after) ↔ start ≠ "--") := by
  by_cases hyphens : start = "--"
  · subst hyphens
    rw [run_hyphens path stop catalogue session]
    refine ⟨iff_of_false (fun same => ?_) (fun ne => ne rfl),
      iff_of_false (fun points => points 1 session rfl) (fun ne => ne rfl)⟩
    exact walkOver_pair_ne_notTwoPoints same.symm
  · rw [run_of_ne_hyphens path hyphens stop catalogue session]
    exact ⟨iff_of_true rfl hyphens,
      iff_of_true (fun _ _ => walkOver_pair_ne_notTwoPoints) hyphens⟩

/-- With `--` and `65` the call tells one point, although `--` is a token that spells none. -/
theorem hyphens_in_front_are_not_read :
    let session : Session Capture := ⟨Capture.empty none, Journal.empty .trace⟩
    run (ofTokens ["unidump".toUTF8, "--".toUTF8, "65".toUTF8]) Catalogue.unicode session =
        .error (.notTwoPoints 1) session ∧
      walkOver Catalogue.unicode ["--", "65"] session =
        .error (.unreadable "--" .notADigit) session ∧
      run (ofTokens ["unidump".toUTF8, "--".toUTF8, "65".toUTF8]) Catalogue.unicode session ≠
        walkOver Catalogue.unicode ["--", "65"] session := by
  intro session
  have told := run_hyphens "unidump".toUTF8 "65" Catalogue.unicode session
  have meant : walkOver Catalogue.unicode ["--", "65"] session =
      .error (.unreadable "--" .notADigit) session := rfl
  refine ⟨told, meant, fun same => ?_⟩
  rw [told, meant] at same
  exact nomatch same

end CodeChart.Invocation
