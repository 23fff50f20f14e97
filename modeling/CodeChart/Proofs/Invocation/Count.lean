import CodeChart.Proofs.Invocation.Plan

/-!
# Counting before and after reading

`run` counts the tokens before it reads them, and `chart` only counts the values that it has read.
With two tokens both do the same.  With any other number they do the same as long as no token is
lost on the way to its value: `chart` rejects a token that is not UTF-8, where `run` only counts it,
and `chart` does not count a `--` in front, which stands for no value.

`chart_of_values_ok` says what becomes of values, in any number, and `run_eq_chart_iff` says exactly
when the two agree.  Where they do not, already their results differ.
-/

namespace CodeChart

namespace Work

variable {σ α : Type}

/-- The value or the fault in which a computation has ended, without the session. -/
def result : EStateM.Result Fault (Session σ) α → Except Fault α
  | .ok value _ => .ok value
  | .error fault _ => .error fault

theorem result_eq_error_iff {ended : EStateM.Result Fault (Session σ) α} {fault : Fault} :
    result ended = .error fault ↔ ∃ after, ended = .error fault after := by
  cases ended <;> simp [result]

end Work

namespace Span

/-- Texts that are not two are counted. -/
theorem ofTokens_of_length_ne {texts : List String} (ne : texts.length ≠ 2) :
    ofTokens texts = .error (.notTwoPoints texts.length) := by
  unfold ofTokens
  split
  · exact absurd rfl ne
  · rfl

/-- A number of texts that is told is how many they are, and it is not two. -/
theorem ofTokens_eq_notTwoPoints_iff {texts : List String} {given : Nat} :
    ofTokens texts = .error (.notTwoPoints given) ↔ texts.length ≠ 2 ∧ texts.length = given := by
  by_cases two : texts.length = 2
  · obtain ⟨start, stop, rfl⟩ := List.length_eq_two.1 two
    rcases ofTokens_pair start stop with ⟨span, found, -⟩ | ⟨token, defect, told⟩
    · simp [found]
    · simp [told]
  · simp [ofTokens_of_length_ne two, two]

end Span

namespace Invocation

variable {σ : Type} [Sink σ]

/-! ## Values in any number -/

/-- The walk between the points that texts spell, if they are two; else their number is told. -/
def walkOver (catalogue : Catalogue) (texts : List String) : Work σ UInt64 :=
  Work.ofExcept (Span.ofTokens texts) >>= Walk.chart catalogue

/-- A fault that is neither a refused piece nor a refused point is told of the texts, before the
walk begins. -/
theorem walkOver_eq_error_iff {catalogue : Catalogue} {texts : List String}
    {session after : Session σ} {fault : Fault} (written : ∀ refusal, fault ≠ .unwritten refusal)
    (present : ∀ absent, fault ≠ .noEntry absent) :
    walkOver catalogue texts session = .error fault after ↔
      Span.ofTokens texts = .error fault ∧ session = after := by
  constructor
  · intro ended
    rcases Work.fault_of_bind_eq_error ended with unread | ⟨span, between, -, walked⟩
    · have told : Work.ofExcept (Span.ofTokens texts) session =
          Work.ofExcept (.error fault) after := unread
      exact Work.ofExcept_inj told
    · rcases Walk.fault_of_chart_eq_error walked with ⟨refusal, eq⟩ | ⟨absent, eq⟩
      · exact absurd eq (written refusal)
      · exact absurd eq (present absent)
  · rintro ⟨unread, rfl⟩
    rw [walkOver, unread]
    rfl

/-- The number of texts is told before the walk begins, or not at all. -/
theorem walkOver_eq_notTwoPoints_iff {catalogue : Catalogue} {texts : List String}
    {session after : Session σ} {given : Nat} :
    walkOver catalogue texts session = .error (.notTwoPoints given) after ↔
      texts.length ≠ 2 ∧ texts.length = given ∧ session = after := by
  rw [walkOver_eq_error_iff (fun _ => Fault.noConfusion) (fun _ => Fault.noConfusion),
    Span.ofTokens_eq_notTwoPoints_iff, and_assoc]

/-- Values are walked over, in any number. -/
theorem chart_of_values_ok {invocation : Invocation} {texts : List String}
    (read : values invocation.arguments = .ok texts) (catalogue : Catalogue) :
    (chart invocation catalogue : Work σ UInt64) = walkOver catalogue texts := by
  rw [chart, span_of_values_ok read, walkOver]

/-- Tokens that are rejected end the call, in any number. -/
theorem chart_of_values_error {invocation : Invocation} {rejection : Rejection}
    (rejected : values invocation.arguments = .error rejection) (catalogue : Catalogue)
    (session : Session σ) :
    chart invocation catalogue session =
      .error (.rejected invocation.program rejection) session := by
  rw [chart, span_of_values_error rejected]
  rfl

/-! ## Tokens that are not counted -/

/-- A `--` in front of the bytes of texts is one in front of the texts. -/
theorem head?_map_toUTF8_eq_hyphens_iff {texts : List String} :
    (texts.map String.toUTF8).head? = some "--".toUTF8 ↔ ∃ rest, texts = "--" :: rest := by
  cases texts with
  | nil => simp
  | cons text rest => simp [String.toByteArray_inj]

/-- Of other than two tokens `chart` tells the number of the tokens exactly if all of them are UTF-8
and the first is not `--`. -/
theorem chart_eq_notTwoPoints_iff {invocation : Invocation}
    (ne : invocation.arguments.length ≠ 2) {catalogue : Catalogue} {session after : Session σ} :
    chart invocation catalogue session = .error (.notTwoPoints invocation.arguments.length) after ↔
      ((∀ token ∈ invocation.arguments, token.IsValidUTF8) ∧
        invocation.arguments.head? ≠ some "--".toUTF8) ∧ session = after := by
  by_cases valid : ∀ token ∈ invocation.arguments, token.IsValidUTF8
  · obtain ⟨texts, bytes⟩ := exists_texts_of_forall_isValidUTF8 valid
    by_cases hyphens : invocation.arguments.head? = some "--".toUTF8
    -- there is one value less than there are tokens
    · obtain ⟨rest, rfl⟩ := head?_map_toUTF8_eq_hyphens_iff.1 (bytes ▸ hyphens)
      have read : values invocation.arguments = .ok rest := by
        rw [bytes, List.map_cons, values_hyphens_texts]
      have fewer : rest.length ≠ invocation.arguments.length := by simp [bytes]
      rw [chart_of_values_ok read, walkOver_eq_notTwoPoints_iff]
      exact iff_of_false (fun told => fewer told.2.1) (fun kept => kept.1.2 hyphens)
    · have read : values invocation.arguments = .ok texts := by
        rw [bytes]
        refine values_map_toUTF8 fun first => hyphens ?_
        rw [bytes, List.head?_map, first]
        rfl
      have length : texts.length = invocation.arguments.length := by
        rw [bytes, List.length_map]
      rw [chart_of_values_ok read, walkOver_eq_notTwoPoints_iff, length, and_iff_right ne,
        and_iff_right rfl, and_iff_right ⟨valid, hyphens⟩]
  · obtain ⟨token, mem, invalid⟩ : ∃ token ∈ invocation.arguments, ¬ token.IsValidUTF8 := by
      simpa using valid
    obtain ⟨rejection, rejected⟩ := exists_rejection_of_mem_not_valid mem invalid
    rw [chart_of_values_error rejected]
    exact iff_of_false (fun told => nomatch told) (fun kept => valid kept.1.1)

/-! ## Agreement -/

theorem arguments_ofTokens (tokens : List Token) : (ofTokens tokens).arguments = tokens.tail := by
  cases tokens <;> rfl

/-- Counting first and counting last come to the same, with the same result, the same output and the
same records, exactly if there are two tokens behind the path, or if all tokens behind it are UTF-8
and the first of them is not `--`.  In all other cases their results alone are different. -/
theorem run_eq_chart_iff (tokens : List Token) (catalogue : Catalogue) (session : Session σ) :
    let counted := run (ofTokens tokens) catalogue session
    let charted := chart (ofTokens tokens) catalogue session
    let kept := tokens.tail.length = 2 ∨
      (∀ token ∈ tokens.tail, token.IsValidUTF8) ∧ tokens.tail.head? ≠ some "--".toUTF8
    (counted = charted ↔ kept) ∧ (Work.result counted = Work.result charted ↔ kept) := by
  rw [← arguments_ofTokens]
  intro counted charted kept
  by_cases two : (ofTokens tokens).arguments.length = 2
  · have same : counted = charted := congrFun (if_pos two) session
    exact ⟨iff_of_true same (.inl two), iff_of_true (congrArg Work.result same) (.inl two)⟩
  · have told : counted = .error (.notTwoPoints (ofTokens tokens).arguments.length) session :=
      run_of_length_ne two catalogue session
    have agrees (after : Session σ) : charted = .error (.notTwoPoints _) after ↔
        _ ∧ session = after := chart_eq_notTwoPoints_iff two
    rw [told]
    constructor
    · rw [eq_comm, agrees, and_iff_left rfl]
      exact (or_iff_right two).symm
    · rw [eq_comm]
      refine Work.result_eq_error_iff.trans ⟨?_, fun kept => ?_⟩
      · rintro ⟨after, ended⟩
        exact .inr ((agrees after).1 ended).1
      · exact ⟨session, (agrees session).2 ⟨kept.resolve_left two, rfl⟩⟩

/-- A `--` alone is one token and no value. -/
example (session : Session Capture) :
    let call := ofTokens ["unidump".toUTF8, "--".toUTF8]
    run call Catalogue.echo session = .error (.notTwoPoints 1) session ∧
      chart call Catalogue.echo session = .error (.notTwoPoints 0) session :=
  ⟨rfl, rfl⟩

end Invocation

end CodeChart
