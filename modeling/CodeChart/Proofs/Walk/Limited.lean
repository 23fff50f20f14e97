import CodeChart.Proofs.Walk.Accepting
import CodeChart.Walk.Series

/-!
# Walks that share a limited capture

A capture with a limit takes the first bytes of what is written to it and refuses the rest.
`Work.perform_of_fits` and `Work.perform_of_exceeds` say what it makes of actions: if their text
fits all of it is taken, else the capture is full afterwards and the fault is that of the piece that
was cut, whatever the actions would have come to.  The cut may fall anywhere in a piece.

`series_shares_limit` lifts this to walks one after another: each walk is compared with the same
walk `alone` on a capture without a limit, and the shared capture always holds the first bytes of
what the walks write alone.
-/

namespace CodeChart

/-- The first bytes are all bytes if there are no more. -/
theorem extract_zero_of_size_le {bytes : ByteArray} {count : Nat} (le : bytes.size ≤ count) :
    bytes.extract 0 count = bytes := by
  rw [ByteArray.ext_iff, ByteArray.data_extract]
  exact Array.extract_eq_self_of_le le

namespace Work

/-- Actions whose text fits are all performed. -/
theorem perform_of_fits (actions : List Action) {limit : Nat} {bytes : ByteArray}
    (fits : (Action.text actions).toUTF8.size ≤ limit - bytes.size) (journal : Journal) :
    perform actions ⟨(⟨some limit, bytes⟩ : Capture), journal⟩ =
      .ok () ⟨⟨some limit, bytes ++ (Action.text actions).toUTF8⟩,
        (Action.records actions).foldl Journal.note journal⟩ := by
  induction actions generalizing bytes journal with
  | nil => simp [Action.text, Action.records]; rfl
  | cons action rest ih =>
    cases action with
    | note record =>
      rw [perform_note_cons]
      exact ih fits (journal.note record)
    | put piece =>
      rw [Action.toUTF8_text_put_cons, ByteArray.size_append] at fits
      have first : Sink.write piece.toUTF8 (⟨some limit, bytes⟩ : Capture) = _ :=
        Capture.write_of_fits (by omega)
      have fits' : (Action.text rest).toUTF8.size ≤ limit - (bytes ++ piece.toUTF8).size := by
        rw [ByteArray.size_append]
        omega
      rw [perform_put_cons, bind_of_ok (put_of_ok journal first), ih fits' journal,
        Action.toUTF8_text_put_cons, ByteArray.append_assoc]
      rfl

/-- Of actions whose text does not fit, those before some piece are performed, and that piece is
cut where the limit is reached. -/
theorem perform_of_exceeds (actions : List Action) {limit : Nat} {bytes : ByteArray}
    (exceeds : limit - bytes.size < (Action.text actions).toUTF8.size) (journal : Journal) :
    ∃ before piece later, actions = before ++ .put piece :: later ∧
      (Action.text before).toUTF8.size ≤ limit - bytes.size ∧
      limit - bytes.size < (Action.text before).toUTF8.size + piece.toUTF8.size ∧
      perform actions ⟨(⟨some limit, bytes⟩ : Capture), journal⟩ =
        .error (.unwritten .cutShort)
          ⟨⟨some limit, bytes ++ (Action.text actions).toUTF8.extract 0 (limit - bytes.size)⟩,
            (Action.records before).foldl Journal.note journal⟩ := by
  induction actions generalizing bytes journal with
  | nil => exact absurd exceeds (by simp [Action.text])
  | cons action rest ih =>
    cases action with
    | note record =>
      obtain ⟨before, piece, later, eq, fits, cut, performed⟩ := ih exceeds (journal.note record)
      exact ⟨.note record :: before, piece, later, by rw [eq, List.cons_append], fits, cut,
        performed⟩
    | put piece =>
      rw [Action.toUTF8_text_put_cons] at exceeds ⊢
      rw [ByteArray.size_append] at exceeds
      by_cases fits : piece.toUTF8.size ≤ limit - bytes.size
      -- the cut falls behind this piece
      · have first : Sink.write piece.toUTF8 (⟨some limit, bytes⟩ : Capture) = _ :=
          Capture.write_of_fits fits
        have next : limit - (bytes ++ piece.toUTF8).size =
            limit - bytes.size - piece.toUTF8.size := by
          rw [ByteArray.size_append]
          omega
        obtain ⟨before, cut, later, eq, fits', exceeds', performed⟩ :=
          @ih (bytes ++ piece.toUTF8) (by omega) journal
        refine ⟨.put piece :: before, cut, later, by rw [eq, List.cons_append], ?_, ?_, ?_⟩
        · rw [Action.toUTF8_text_put_cons, ByteArray.size_append]
          omega
        · rw [Action.toUTF8_text_put_cons, ByteArray.size_append]
          omega
        · have whole : piece.toUTF8.extract 0 (limit - bytes.size) = piece.toUTF8 :=
            extract_zero_of_size_le fits
          rw [perform_put_cons, bind_of_ok (put_of_ok journal first), performed, next,
            ByteArray.extract_append, whole, Nat.zero_sub, ByteArray.append_assoc]
          rfl
      -- the cut falls in this piece, and nothing behind it is written
      · have first : Sink.write piece.toUTF8 (⟨some limit, bytes⟩ : Capture) = _ :=
          Capture.write_of_exceeds (Nat.lt_of_not_le fits)
        refine ⟨[], piece, rest, rfl, Nat.zero_le _, ?_, ?_⟩
        · have nothing : (Action.text []).toUTF8.size = 0 := rfl
          omega
        · have behind : limit - bytes.size - piece.toUTF8.size = 0 := by omega
          rw [perform_put_cons, bind_of_error (put_of_error journal first),
            ByteArray.extract_append, Nat.zero_sub, behind, ByteArray.extract_same,
            ByteArray.append_empty]
          rfl

end Work

namespace Walk

/-- One walk of a series, with the capture that it leaves. -/
def turn (catalogue : Catalogue) (level : Level) (span : Span) (capture : Capture) :
    Step × Capture :=
  Step.ofResult capture.bytes.size (chart catalogue span ⟨capture, Journal.empty level⟩)

/-- The walk on a capture of its own that has no limit. -/
def alone (catalogue : Catalogue) (level : Level) (span : Span) : Step :=
  (turn catalogue level span (Capture.empty none)).1

/-- The capture as walks one after another leave it. -/
def captureAfter (catalogue : Catalogue) (level : Level) (spans : List Span) (capture : Capture) :
    Capture :=
  spans.foldl (fun capture span => (turn catalogue level span capture).2) capture

/-- What the walks write alone, one after another. -/
def writtenAlone (catalogue : Catalogue) (level : Level) (spans : List Span) : ByteArray :=
  spans.foldl (fun bytes span => bytes ++ (alone catalogue level span).output) .empty

variable (catalogue : Catalogue) (level : Level)

/-! ## One walk -/

/-- A walk's step tells its result and what the capture holds behind what it held before. -/
theorem ofResult_ofExcept (result : Except Fault UInt64) (limit? : Option Nat)
    (bytes more : ByteArray) (journal : Journal) :
    Step.ofResult bytes.size (Work.ofExcept result ⟨⟨limit?, bytes ++ more⟩, journal⟩) =
      (⟨result, more, (bytes ++ more).size, journal⟩, ⟨limit?, bytes ++ more⟩) := by
  have behind : (bytes ++ more).extract bytes.size (bytes ++ more).size = more :=
    ByteArray.extract_append_eq_right rfl (by rw [ByteArray.size_append])
  cases result with
  | ok lines =>
    show ((⟨.ok lines, _, _, journal⟩ : Step), (_ : Capture)) = _
    rw [behind]
  | error fault =>
    show ((⟨.error fault, _, _, journal⟩ : Step), (_ : Capture)) = _
    rw [behind]

/-- Alone, a walk writes the lines of its survey and ends as the survey ends. -/
theorem alone_spec (span : Span) :
    (alone catalogue level span).output =
        (printed (survey catalogue span.size span.start).lines).toUTF8 ∧
      (alone catalogue level span).result = (survey catalogue span.size span.start).ending 0 := by
  obtain ⟨⟨⟨limit?, bytes⟩, journal⟩, walked, -, -, behind⟩ :=
    chart_of_accepts Capture.accepts catalogue span (Capture.empty none) rfl
      (Journal.empty level)
  obtain rfl : bytes = _ := behind
  rw [alone, turn, walked, Capture.empty, ofResult_ofExcept]
  exact ⟨rfl, rfl⟩

/-- On a limited capture a walk writes the part of what it writes alone for which there is room.  It
ends as it does alone if that is all, and else in the refusal of the capture. -/
theorem turn_limited (span : Span) (limit : Nat) (bytes : ByteArray) :
    ∃ journal, turn catalogue level span ⟨some limit, bytes⟩ =
      let own := alone catalogue level span
      let taken := own.output.extract 0 (limit - bytes.size)
      (⟨if own.output.size ≤ limit - bytes.size then own.result else .error (.unwritten .cutShort),
        taken, (bytes ++ taken).size, journal⟩, ⟨some limit, bytes ++ taken⟩) := by
  obtain ⟨output, result⟩ := alone_spec catalogue level span
  simp only [output, result]
  rw [← Survey.text_actions span]
  by_cases fits : (Work.Action.text ((survey catalogue span.size span.start).actions
      span)).toUTF8.size ≤ limit - bytes.size
  · have walked := Work.bind_of_ok (Work.perform_of_fits _ fits (Journal.empty level)) fun _ =>
      Work.ofExcept ((survey catalogue span.size span.start).ending 0)
    rw [← chart_eq_perform] at walked
    rw [turn, walked, ofResult_ofExcept, if_pos fits, extract_zero_of_size_le fits]
    exact ⟨_, rfl⟩
  · obtain ⟨_, _, _, _, _, _, performed⟩ :=
      Work.perform_of_exceeds _ (Nat.lt_of_not_le fits) (Journal.empty level)
    have walked := Work.bind_of_error performed fun _ =>
      Work.ofExcept ((survey catalogue span.size span.start).ending 0)
    rw [← chart_eq_perform] at walked
    rw [turn, walked, if_neg fits]
    exact ⟨_, ofResult_ofExcept (.error (.unwritten .cutShort)) _ _ _ _⟩

/-! ## Walks one after another -/

/-- The steps of a series are the walks in turn, each on the capture that those before it left. -/
theorem series_getElem? (spans : List Span) (capture : Capture) (k : Nat) :
    (series catalogue level spans capture)[k]? = spans[k]?.map fun span =>
      (turn catalogue level span (captureAfter catalogue level (spans.take k) capture)).1 := by
  induction spans generalizing capture k with
  | nil => rfl
  | cons span rest ih =>
    cases k with
    | zero => rfl
    | succ k => exact ih _ k

theorem length_series (spans : List Span) (capture : Capture) :
    (series catalogue level spans capture).length = spans.length := by
  induction spans generalizing capture with
  | nil => rfl
  | cons span rest ih => exact congrArg (· + 1) (ih _)

/-- One more walk goes on with the capture that those before it left. -/
theorem captureAfter_take_succ {spans : List Span} {k : Nat} {span : Span}
    (found : spans[k]? = some span) (capture : Capture) :
    captureAfter catalogue level (spans.take (k + 1)) capture =
      (turn catalogue level span (captureAfter catalogue level (spans.take k) capture)).2 := by
  rw [captureAfter, List.take_add_one, found, Option.toList_some, List.foldl_append]
  rfl

/-- The first bytes of a text, and behind them what there is room for of another, are the first
bytes of both. -/
theorem extract_append_extract_room (whole more : ByteArray) (limit : Nat) :
    whole.extract 0 limit ++ more.extract 0 (limit - (whole.extract 0 limit).size) =
      (whole ++ more).extract 0 limit := by
  rw [ByteArray.extract_append, ByteArray.size_extract, Nat.zero_sub]
  congr 2
  omega

/-- A limited capture always holds the first bytes of what the walks write alone. -/
theorem captureAfter_limited (spans : List Span) (limit : Nat) :
    captureAfter catalogue level spans (Capture.empty (some limit)) =
      ⟨some limit, (writtenAlone catalogue level spans).extract 0 limit⟩ := by
  -- the induction goes over the walks still to come, from any text written before them
  suffices general : ∀ whole : ByteArray,
      captureAfter catalogue level spans ⟨some limit, whole.extract 0 limit⟩ =
        ⟨some limit, (spans.foldl (fun bytes span =>
          bytes ++ (alone catalogue level span).output) whole).extract 0 limit⟩ by
    have nothing : ByteArray.empty.extract 0 limit = .empty :=
      extract_zero_of_size_le (Nat.zero_le limit)
    have started := general .empty
    rw [nothing] at started
    exact started
  induction spans with
  | nil => intro whole; rfl
  | cons span rest ih =>
    intro whole
    obtain ⟨journal, walked⟩ := turn_limited catalogue level span limit (whole.extract 0 limit)
    have left := congrArg Prod.snd walked
    dsimp only at left
    rw [extract_append_extract_room] at left
    rw [captureAfter, List.foldl_cons, left, List.foldl_cons]
    exact ih _

/-- The walks write alone what those before the last one write, and then what the last one does. -/
theorem writtenAlone_take_succ {spans : List Span} {k : Nat} {span : Span}
    (found : spans[k]? = some span) :
    writtenAlone catalogue level (spans.take (k + 1)) =
      writtenAlone catalogue level (spans.take k) ++ (alone catalogue level span).output := by
  rw [writtenAlone, List.take_add_one, found, Option.toList_some, List.foldl_append]
  rfl

/-- More walks do not write less. -/
theorem size_writtenAlone_le (spans : List Span) {j k : Nat} (le : j ≤ k) :
    (writtenAlone catalogue level (spans.take j)).size ≤
      (writtenAlone catalogue level (spans.take k)).size := by
  induction le with
  | refl => exact Nat.le_refl _
  | @step k _ ih =>
    cases found : spans[k]? with
    | none =>
      rw [List.take_add_one, found, Option.toList_none, List.append_nil]
      exact ih
    | some span =>
      rw [writtenAlone_take_succ catalogue level found, ByteArray.size_append]
      exact Nat.le_add_right_of_le ih

/-- A walk alone is never refused a piece. -/
theorem result_alone_ne_unwritten (span : Span) (refusal : Refusal) :
    (alone catalogue level span).result ≠ .error (.unwritten refusal) := by
  rw [(alone_spec catalogue level span).2, Survey.ending]
  split <;> simp

/-- A step of a series on a limited capture, by what the capture held before it. -/
theorem step_of_series_limited {spans : List Span} {limit k : Nat} {span : Span} {step : Step}
    (spanAt : spans[k]? = some span)
    (stepAt : (series catalogue level spans (Capture.empty (some limit)))[k]? = some step) :
    let own := alone catalogue level span
    let before := (writtenAlone catalogue level (spans.take k)).extract 0 limit
    step.result = (if own.output.size ≤ limit - before.size then own.result
      else .error (.unwritten .cutShort)) ∧
    step.output = own.output.extract 0 (limit - before.size) ∧
    (captureAfter catalogue level (spans.take (k + 1)) (Capture.empty (some limit))).bytes =
      before ++ step.output ∧
    step.total = (before ++ step.output).size := by
  rw [series_getElem?, spanAt, Option.map_some, captureAfter_limited] at stepAt
  obtain ⟨journal, walked⟩ := turn_limited catalogue level span limit
    ((writtenAlone catalogue level (spans.take k)).extract 0 limit)
  rw [walked] at stepAt
  obtain rfl := Option.some.inj stepAt
  rw [captureAfter_take_succ catalogue level spanAt, captureAfter_limited, walked]
  exact ⟨rfl, rfl, rfl, rfl⟩

/-- Walks one after another into one capture with a limit, each compared with the same walk alone on
a capture without a limit.

A walk for whose text there is room ends as it does alone and adds that text; any other adds the
part for which there is room and ends in the refusal of the capture, also if it ends in another
fault alone.  So the capture always holds the first bytes of what the walks write alone, and behind
a refused walk every walk that writes anything alone is refused and adds nothing. -/
theorem series_shares_limit (limit : Nat) (spans : List Span) :
    let steps := series catalogue level spans (Capture.empty (some limit))
    let held k := (captureAfter catalogue level (spans.take k) (Capture.empty (some limit))).bytes
    steps.length = spans.length ∧
    (∀ (k : Nat) (span : Span) (step : Step), spans[k]? = some span → steps[k]? = some step →
      let own := alone catalogue level span
      let room := limit - (held k).size
      held (k + 1) = held k ++ step.output ∧ step.total = (held (k + 1)).size ∧
      (own.output.size ≤ room → step.result = own.result ∧ step.output = own.output) ∧
      (room < own.output.size →
        step.result = .error (.unwritten .cutShort) ∧ step.output = own.output.extract 0 room)) ∧
    (∀ k, held k = (writtenAlone catalogue level (spans.take k)).extract 0 limit) ∧
    ∀ (j k : Nat) (failed step : Step) (refusal : Refusal) (span : Span), j < k →
      steps[j]? = some failed → failed.result = .error (.unwritten refusal) →
      spans[k]? = some span → steps[k]? = some step →
      (alone catalogue level span).output ≠ .empty →
      step.result = .error (.unwritten .cutShort) ∧ step.output = .empty := by
  intro steps held
  have held_eq : ∀ k, held k = (writtenAlone catalogue level (spans.take k)).extract 0 limit :=
    fun k => congrArg Capture.bytes (captureAfter_limited catalogue level (spans.take k) limit)
  refine ⟨length_series .., ?_, held_eq, ?_⟩
  · intro k span step spanAt stepAt own room
    obtain ⟨result, output, next, total⟩ :=
      step_of_series_limited catalogue level spanAt stepAt
    rw [← held_eq] at result output next total
    refine ⟨next, by rw [total, ← next], fun fits => ?_, fun exceeds => ?_⟩
    · rw [result, output, if_pos fits]
      exact ⟨rfl, extract_zero_of_size_le fits⟩
    · rw [result, output, if_neg (Nat.not_le_of_lt exceeds)]
      exact ⟨rfl, rfl⟩
  · intro j k failed step refusal span before failedAt refused spanAt stepAt writes
    -- the capture was full behind the refused walk, and it still is
    obtain ⟨failedSpan, failedSpanAt, -⟩ := Option.map_eq_some_iff.1
      ((series_getElem? catalogue level spans _ j).symm.trans failedAt)
    obtain ⟨result, -, -, -⟩ := step_of_series_limited catalogue level failedSpanAt failedAt
    have full : limit ≤ (writtenAlone catalogue level (spans.take (j + 1))).size := by
      rw [writtenAlone_take_succ catalogue level failedSpanAt, ByteArray.size_append]
      rw [ByteArray.size_extract] at result
      split at result
      · exact absurd (result.symm.trans refused)
          (result_alone_ne_unwritten catalogue level failedSpan refusal)
      · omega
    have still : limit ≤ (writtenAlone catalogue level (spans.take k)).size :=
      Nat.le_trans full (size_writtenAlone_le catalogue level spans before)
    obtain ⟨result, output, -, -⟩ := step_of_series_limited catalogue level spanAt stepAt
    have positive : 0 < (alone catalogue level span).output.size :=
      Nat.pos_of_ne_zero fun zero => writes (ByteArray.size_eq_zero_iff.1 zero)
    have no_room :
        limit - ((writtenAlone catalogue level (spans.take k)).extract 0 limit).size = 0 := by
      rw [ByteArray.size_extract]
      omega
    rw [no_room] at result output
    rw [result, output, if_neg (Nat.not_le_of_lt positive), ByteArray.extract_same]
    exact ⟨rfl, rfl⟩

end Walk

end CodeChart
