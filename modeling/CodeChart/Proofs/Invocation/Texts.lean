import CodeChart.Proofs.Invocation.Count

/-!
# Texts as they stand

Tokens that are texts reach the reader of points whole and in order.  None is taken for a flag, cut
at an equals sign or left out, except for a `--` in front of all others, which marks that only
values follow; behind this mark every text is a value, also another `--`.

`values_texts_iff` says this of the values, and `chart_takes_texts_as_they_stand` of the whole call:
it is the walk over the texts, with the mark always and without it exactly if the first text is not
the mark.  What the walk over texts tells before it begins is their number or the first of two that
spells no point (`walkOver_eq_unreadable_iff`).
-/

namespace CodeChart

namespace Span

/-- Of two texts the first one that spells no point, with its defect. -/
inductive FirstDefect (start stop : String) : String → Point.Defect → Prop where
  /-- The first text spells no point, whatever the second one is. -/
  | start {defect : Point.Defect} (unread : Point.ofString start = .error defect) :
    FirstDefect start stop start defect
  /-- The first text spells a point and the second one does not. -/
  | stop {first : Int64} {defect : Point.Defect} (spelled : Point.Spells start first)
    (unread : Point.ofString stop = .error defect) : FirstDefect start stop stop defect

/-- Of two texts the first one that spells no point is told as it is, and no other. -/
theorem ofTokens_pair_eq_unreadable_iff {start stop token : String} {defect : Point.Defect} :
    ofTokens [start, stop] = .error (.unreadable token defect) ↔
      FirstDefect start stop token defect := by
  constructor
  · intro told
    cases read : Point.ofString start with
    | error defect' =>
      rw [ofTokens_of_error read] at told
      cases told
      exact .start read
    | ok first =>
      have spelled := Point.ofString_eq_ok_iff.1 read
      cases read' : Point.ofString stop with
      | error defect' =>
        rw [ofTokens_of_spells_of_error spelled read'] at told
        cases told
        exact .stop spelled read'
      | ok last =>
        rw [ofTokens_of_spells spelled (Point.ofString_eq_ok_iff.1 read')] at told
        exact nomatch told
  · intro first
    cases first with
    | start unread => exact ofTokens_of_error unread stop
    | stop spelled unread => exact ofTokens_of_spells_of_error spelled unread

/-- Of texts that are not two none is told. -/
theorem ofTokens_eq_unreadable_iff {texts : List String} {token : String} {defect : Point.Defect} :
    ofTokens texts = .error (.unreadable token defect) ↔
      ∃ start stop, texts = [start, stop] ∧ FirstDefect start stop token defect := by
  constructor
  · intro told
    have two : texts.length = 2 := by
      by_contra ne
      rw [ofTokens_of_length_ne ne] at told
      exact nomatch told
    obtain ⟨start, stop, rfl⟩ := List.length_eq_two.1 two
    exact ⟨start, stop, rfl, ofTokens_pair_eq_unreadable_iff.1 told⟩
  · rintro ⟨start, stop, rfl, first⟩
    exact ofTokens_pair_eq_unreadable_iff.2 first

end Span

namespace Invocation

variable {σ : Type} [Sink σ]

/-! ## Values -/

/-- Texts are the values exactly if the first one is not `--`. -/
theorem values_texts_iff {texts : List String} :
    values (texts.map String.toUTF8) = .ok texts ↔ texts.head? ≠ some "--" := by
  constructor
  · intro read hyphens
    obtain ⟨rest, rfl⟩ := List.head?_eq_some_iff.1 hyphens
    rw [List.map_cons, values_hyphens_texts] at read
    have length := congrArg List.length (Except.ok.inj read)
    rw [List.length_cons] at length
    omega
  · exact values_map_toUTF8

/-! ## The walk over texts -/

/-- The text that is told before the walk begins is the first of two that spells no point. -/
theorem walkOver_eq_unreadable_iff {catalogue : Catalogue} {texts : List String}
    {session after : Session σ} {token : String} {defect : Point.Defect} :
    walkOver catalogue texts session = .error (.unreadable token defect) after ↔
      (∃ start stop, texts = [start, stop] ∧ Span.FirstDefect start stop token defect) ∧
        session = after := by
  rw [walkOver_eq_error_iff (fun _ => Fault.noConfusion) (fun _ => Fault.noConfusion),
    Span.ofTokens_eq_unreadable_iff]

/-- One text more in front never makes the same walk. -/
theorem walkOver_ne_cons (catalogue : Catalogue) (text : String) (texts : List String)
    (session : Session σ) :
    walkOver catalogue texts session ≠ walkOver catalogue (text :: texts) session := by
  intro same
  by_cases two : texts.length = 2
  -- of the two walks one tells a number that the other cannot tell
  · have counted : walkOver catalogue (text :: texts) session =
        .error (.notTwoPoints (text :: texts).length) session :=
      walkOver_eq_notTwoPoints_iff.2 ⟨by simp [two], rfl, rfl⟩
    exact (walkOver_eq_notTwoPoints_iff.1 (same.trans counted)).1 two
  · have counted : walkOver catalogue texts session = .error (.notTwoPoints texts.length) session :=
      walkOver_eq_notTwoPoints_iff.2 ⟨two, rfl, rfl⟩
    have length := (walkOver_eq_notTwoPoints_iff.1 (same.symm.trans counted)).2.1
    rw [List.length_cons] at length
    omega

/-! ## The call -/

/-- Behind a `--` in front, a call is the walk over the texts, with the same result, the same output
and the same records, whatever the texts look like; and without it exactly if the first text is not
`--`.  What is told of the texts before the walk begins is how many they are, if they are not two,
or the first of two that spells no point, as it stands. -/
theorem chart_takes_texts_as_they_stand (path : Token) (texts : List String) (catalogue : Catalogue)
    (session : Session σ) :
    let bare := ofTokens (path :: texts.map String.toUTF8)
    let marked := ofTokens (path :: "--".toUTF8 :: texts.map String.toUTF8)
    (values marked.arguments = .ok texts ∧
      chart marked catalogue session = walkOver catalogue texts session) ∧
    (values bare.arguments = .ok texts ↔ texts.head? ≠ some "--") ∧
    (chart bare catalogue session = walkOver catalogue texts session ↔ texts.head? ≠ some "--") ∧
    (∀ given after, walkOver catalogue texts session = .error (.notTwoPoints given) after ↔
      texts.length ≠ 2 ∧ texts.length = given ∧ session = after) ∧
    ∀ token defect after,
      walkOver catalogue texts session = .error (.unreadable token defect) after ↔
        (∃ start stop, texts = [start, stop] ∧ Span.FirstDefect start stop token defect) ∧
          session = after := by
  intro bare marked
  have read : values marked.arguments = .ok texts := values_hyphens_texts texts
  refine ⟨⟨read, by rw [chart_of_values_ok read]⟩, values_texts_iff, ⟨?_, ?_⟩,
    fun _ _ => walkOver_eq_notTwoPoints_iff, fun _ _ _ => walkOver_eq_unreadable_iff⟩
  · intro same hyphens
    obtain ⟨rest, rfl⟩ := List.head?_eq_some_iff.1 hyphens
    -- the mark is dropped, and the rest alone is walked over
    have dropped : values bare.arguments = .ok rest := values_hyphens_texts rest
    rw [chart_of_values_ok dropped] at same
    exact walkOver_ne_cons catalogue "--" rest session same
  · intro no_hyphens
    rw [chart_of_values_ok (values_map_toUTF8 no_hyphens)]

/-- A `--` behind the first text is a point that cannot be read, and so is a second one in front. -/
example (session : Session Capture) :
    chart (ofTokens (["unidump", "65", "--"].map String.toUTF8)) Catalogue.echo session =
        .error (.unreadable "--" .notADigit) session ∧
      chart (ofTokens (["unidump", "--", "--", "65"].map String.toUTF8)) Catalogue.echo session =
        .error (.unreadable "--" .notADigit) session :=
  ⟨rfl, rfl⟩

end Invocation

end CodeChart
