import CodeChart.Executable
import CodeChart.Proofs.Fault.Message
import CodeChart.Proofs.Invocation.Plan
import CodeChart.Proofs.Walk.CodePoints

/-!
# How the program ends

The program writes through a buffer and hands over what is left in it at the end.  Here it is
compared with the same call on a capture that takes everything, `plain`.

On a device with space the buffer does not show: the device receives what the plain call writes,
and the plain call alone decides about the status and the two streams
(`outcome_on_spacious_device`).  On a full device it does show, but only by its size: what counts is
whether the plain call writes nothing, no more than the buffer holds, or more
(`outcome_on_full_device`).  In neither case does it matter how the lines are cut into pieces.
-/

namespace CodeChart

namespace Executable

/-! ## The plain call -/

/-- The call of the program on a capture that takes everything. -/
def plain (arguments : List Token) : EStateM.Result Fault (Session Capture) UInt64 :=
  (call arguments).run Catalogue.unicode ⟨Capture.empty none, Journal.empty .off⟩

/-- The plain call writes the output of its plan and ends as planned. -/
theorem plain_eq_ofExcept (arguments : List Token) :
    ∃ after : Session Capture,
      plain arguments = Work.ofExcept ((call arguments).plan Catalogue.unicode).ending after ∧
      after.sink.bytes = ((call arguments).plan Catalogue.unicode).output := by
  obtain ⟨after, ran, -, written⟩ := Invocation.run_of_accepts Capture.accepts (call arguments)
    Catalogue.unicode (Capture.empty none) rfl (Journal.empty .off)
  exact ⟨after, ran, written.trans ByteArray.empty_append⟩

/-- How the plain call ends tells its plan. -/
theorem plan_of_plain (result : Except Fault UInt64) {arguments : List Token}
    {after : Session Capture} (ended : plain arguments = Work.ofExcept result after) :
    ((call arguments).plan Catalogue.unicode).ending = result ∧
      after.sink.bytes = ((call arguments).plan Catalogue.unicode).output := by
  obtain ⟨after', ended', written⟩ := plain_eq_ofExcept arguments
  obtain ⟨ends, rfl⟩ := Work.ofExcept_inj (ended'.symm.trans ended)
  exact ⟨ends, written⟩

/-- A plain call over a span with a point that is refused writes the lines below the least such
point and ends in its refusal. -/
theorem plain_of_refusesFirst {arguments : List Token} {span : Span} {point : Int64}
    {absent : NoEntry} (decided : (call arguments).decision = .ok span)
    (first : Catalogue.unicode.RefusesFirst span point absent) :
    ∃ after : Session Capture, plain arguments = .error (.noEntry absent) after ∧
      after.sink.bytes =
        (Walk.printed (Walk.survey Catalogue.unicode span.size span.start).lines).toUTF8 := by
  obtain ⟨after, ended, written⟩ := plain_eq_ofExcept arguments
  obtain ⟨stopped, -⟩ := Walk.survey_of_refusesFirst first
  rw [Invocation.plan_of_ok decided, Walk.Survey.ending, stopped] at ended
  rw [Invocation.plan_of_ok decided, Invocation.Plan.output, Walk.Survey.text_actions] at written
  exact ⟨after, ended, written⟩

/-- A start that is refused leaves nothing to write. -/
theorem plain_from_minus_one :
    ∃ after : Session Capture,
      plain ["-1".toUTF8, "5".toUTF8] = .error (.noEntry ⟨-1⟩) after ∧
      after.sink.bytes = .empty := by
  have decided : (call ["-1".toUTF8, "5".toUTF8]).decision = .ok ⟨-1, 5⟩ :=
    Invocation.decision_eq_ok_iff.2
      ⟨"-1", "5", rfl, Point.ofString_eq_ok_iff.1 rfl, Point.ofString_eq_ok_iff.1 rfl⟩
  have first : Catalogue.unicode.RefusesFirst ⟨-1, 5⟩ (-1) ⟨-1⟩ :=
    Catalogue.refusesFirst_unicode_start (by decide) (.inl (by decide))
  obtain ⟨after, ended, written⟩ := plain_of_refusesFirst decided first
  have length := Walk.length_lines_of_refusesFirst first
  have zero : (-1 : Int64).toInt - (-1 : Int64).toInt = 0 := by decide
  rw [zero] at length
  rw [List.length_eq_zero_iff.1 (Int.natCast_eq_zero.1 length)] at written
  exact ⟨after, ended, written⟩

/-- The lines from a million to the last code point are more than the buffer can hold, and the point
behind them is refused. -/
theorem plain_beyond_last :
    ∃ after : Session Capture,
      plain ["1000000".toUTF8, "1114112".toUTF8] = .error (.noEntry ⟨1114112⟩) after ∧
      8192 < after.sink.bytes.size := by
  have decided : (call ["1000000".toUTF8, "1114112".toUTF8]).decision =
      .ok ⟨1000000, 1114112⟩ := Invocation.decision_eq_ok_iff.2
    ⟨"1000000", "1114112", rfl, Point.ofString_eq_ok_iff.1 rfl, Point.ofString_eq_ok_iff.1 rfl⟩
  have first : Catalogue.unicode.RefusesFirst ⟨1000000, 1114112⟩ 1114112 ⟨1114112⟩ :=
    Catalogue.refusesFirst_unicode_behind (by decide) (by decide) (by decide)
  obtain ⟨after, ended, written⟩ := plain_of_refusesFirst decided first
  have length := Walk.length_lines_of_refusesFirst first
  have count : (1114112 : Int64).toInt - (1000000 : Int64).toInt = 114112 := by decide
  rw [count] at length
  refine ⟨after, ended, ?_⟩
  rw [written]
  refine Nat.lt_of_lt_of_le ?_ (Walk.length_le_size_printed _)
  omega

/-! ## The program by its plan -/

/-- A device with space receives what the program expects. -/
theorem Outcome.ofFault?_notTwoPoints (given : Nat) (received : ByteArray) :
    Outcome.ofFault? ⟨false, received⟩ (some (.notTwoPoints given)) =
      ⟨1, ⟨false, received ++ "Start and end points are required\n".toUTF8⟩, ""⟩ := rfl

/-- Any other fault is told on standard error. -/
theorem Outcome.ofFault?_some {fault : Fault} (points : ∀ given, fault ≠ .notTwoPoints given)
    (stdout : Device) :
    Outcome.ofFault? stdout (some fault) =
      ⟨1, stdout, "unidump: " ++ fault.message ++ "\n"⟩ := by
  cases fault with
  | notTwoPoints given => exact absurd rfl (points given)
  | _ => rfl

/-- The fault of a result, if it is one. -/
def faultOf? : Except Fault UInt64 → Option Fault
  | .ok _ => none
  | .error fault => some fault

theorem faultOf?_eq_some_iff {result : Except Fault UInt64} {fault : Fault} :
    faultOf? result = some fault ↔ result = .error fault := by
  cases result <;> simp [faultOf?]

theorem ending_ofExcept {σ : Type} (result : Except Fault UInt64) (session : Session σ) :
    ending (Work.ofExcept result session) = (faultOf? result, session) := by
  cases result <;> rfl

/-- The last hand-over adds its refusal to the result of the call, if that is no fault. -/
theorem runOn_of_ran {catalogue : Catalogue} {arguments : List Token} {stdout : Device}
    {result : Except Fault UInt64} {after : Session Buffered}
    (ran : (call arguments).run catalogue ⟨Buffered.new stdout, Journal.empty .off⟩ =
      Work.ofExcept result after) :
    runOn catalogue arguments stdout =
      Outcome.ofFault? (ending (Buffered.flush after.sink)).2.device
        (faultOf? result <|> (ending (Buffered.flush after.sink)).1.map Fault.unwritten) := by
  rw [runOn, ran, ending_ofExcept]

/-- On a device with space the whole output is received, and the plan decides how it went. -/
theorem runOn_spacious (catalogue : Catalogue) (arguments : List Token) :
    runOn catalogue arguments (Device.new false) =
      Outcome.ofFault? ⟨false, ((call arguments).plan catalogue).output⟩
        (faultOf? ((call arguments).plan catalogue).ending) := by
  obtain ⟨⟨⟨held, ⟨full, received⟩⟩, journal⟩, ran, ⟨rfl, -⟩, taken⟩ :=
    Invocation.run_of_accepts Buffered.accepts (call arguments) catalogue
      (Buffered.new (Device.new false)) ⟨rfl, Nat.zero_le _⟩ (Journal.empty .off)
  -- the device has in the end what was taken before the last hand-over
  have nothing : (Buffered.new (Device.new false)).taken = .empty := ByteArray.empty_append
  rw [nothing, ByteArray.empty_append] at taken
  rw [runOn_of_ran ran, Buffered.flush_spacious, ← taken]
  cases ((call arguments).plan catalogue).ending <;> rfl

/-- On a full device nothing is received.  If the buffer can hold the output, the fault of the plan
is told, and without one the output is refused at the end, unless there is none; any other output is
refused before the end. -/
theorem runOn_full (catalogue : Catalogue) (arguments : List Token) :
    runOn catalogue arguments (Device.new true) =
      Outcome.ofFault? ⟨true, .empty⟩
        (if ((call arguments).plan catalogue).output.size ≤ Buffered.capacity then
          faultOf? ((call arguments).plan catalogue).ending <|>
            if ((call arguments).plan catalogue).output.size = 0 then none
            else some (.unwritten .noSpace)
        else some (.unwritten .noSpace)) := by
  -- at first the buffer holds nothing
  have start : ByteArray.empty.size + ((call arguments).plan catalogue).output.size =
      ((call arguments).plan catalogue).output.size := Nat.zero_add _
  by_cases fits : ((call arguments).plan catalogue).output.size ≤ Buffered.capacity
  · have performed := Work.perform_of_holds _ (Invocation.size_piece_lt fits)
      (Nat.le_trans (Nat.le_of_eq start) fits) (Device.new true) (Journal.empty .off)
    have ran := (congrFun (Invocation.run_eq_perform (call arguments) catalogue) _).trans
      (Work.bind_of_ok performed _)
    rw [runOn_of_ran ran, if_pos fits, ByteArray.empty_append, ← Invocation.Plan.output]
    by_cases nothing : ((call arguments).plan catalogue).output.size = 0
    · rw [if_pos nothing, ByteArray.size_eq_zero_iff.1 nothing, Buffered.flush_nothing]
      rfl
    · rw [if_neg nothing, Device.new, Buffered.flush_full nothing]
      rfl
  · obtain ⟨kept, journal, performed⟩ :=
      Work.perform_of_overflows ((call arguments).plan catalogue).actions (Nat.zero_le _)
        (Nat.lt_of_lt_of_eq (Nat.lt_of_not_le fits) start.symm) .empty (Journal.empty .off)
    have ran : (call arguments).run catalogue
        ⟨Buffered.new (Device.new true), Journal.empty .off⟩ =
          Work.ofExcept (.error (.unwritten .noSpace)) ⟨⟨kept, ⟨true, .empty⟩⟩, journal⟩ :=
      (congrFun (Invocation.run_eq_perform (call arguments) catalogue) _).trans
        (Work.bind_of_error performed _)
    rw [runOn_of_ran ran, if_neg fits]
    by_cases nothing : kept.size = 0
    · obtain rfl := ByteArray.size_eq_zero_iff.1 nothing
      rw [Buffered.flush_nothing]
      rfl
    · rw [Buffered.flush_full nothing]
      rfl

/-- How the catalogue cuts its lines has no part in how the program ends, on any device. -/
theorem runOn_of_sameTexts {catalogue other : Catalogue} (same : catalogue.SameTexts other)
    (arguments : List Token) (full : Bool) :
    runOn catalogue arguments (Device.new full) = runOn other arguments (Device.new full) := by
  obtain ⟨output, ends⟩ := Invocation.plan_of_sameTexts same (call arguments)
  cases full with
  | false => rw [runOn_spacious, runOn_spacious, output, ends]
  | true => rw [runOn_full, runOn_full, output, ends]

/-! ## The program by the plain call -/

/-- On a device with space the program ends as the plain call does.  The device receives what the
plain call writes, also where that ends in a fault, however often the buffer runs full on the way
and however the lines are cut into pieces.  A call that tells the number of points writes nothing,
and the device receives what the program expects instead. -/
theorem outcome_on_spacious_device (arguments : List Token) :
    let outcome := run arguments (Device.new false)
    (∀ lines after, plain arguments = .ok lines after →
      outcome = ⟨0, ⟨false, after.sink.bytes⟩, ""⟩) ∧
    (∀ given after, plain arguments = .error (.notTwoPoints given) after →
      after.sink.bytes = .empty ∧
      outcome = ⟨1, ⟨false, "Start and end points are required\n".toUTF8⟩, ""⟩) ∧
    (∀ fault after, plain arguments = .error fault after →
      (∀ given, fault ≠ .notTwoPoints given) →
      outcome = ⟨1, ⟨false, after.sink.bytes⟩, "unidump: " ++ fault.message ++ "\n"⟩) ∧
    ∀ other : Catalogue, other.SameTexts Catalogue.unicode →
      runOn other arguments (Device.new false) = outcome := by
  intro outcome
  have decided : outcome = Outcome.ofFault? _ _ := runOn_spacious Catalogue.unicode arguments
  refine ⟨fun lines after ended => ?_, fun given after ended => ?_,
    fun fault after ended points => ?_, fun other same => runOn_of_sameTexts same arguments false⟩
  · obtain ⟨ends, written⟩ := plan_of_plain (.ok _) ended
    rw [decided, ends, written]
    rfl
  · obtain ⟨ends, written⟩ := plan_of_plain (.error _) ended
    have nothing := Invocation.output_plan_of_notTwoPoints ends
    rw [decided, ends, written, nothing]
    exact ⟨rfl, Outcome.ofFault?_notTwoPoints given .empty⟩
  · obtain ⟨ends, written⟩ := plan_of_plain (.error _) ended
    rw [decided, ends, written]
    exact Outcome.ofFault?_some points _

/-- The lines before a refused point are received, also if they are more than the buffer holds. -/
theorem spacious_device_keeps_lines_before_fault :
    ∃ after : Session Capture,
      plain ["1000000".toUTF8, "1114112".toUTF8] = .error (.noEntry ⟨1114112⟩) after ∧
      8192 < after.sink.bytes.size ∧
      run ["1000000".toUTF8, "1114112".toUTF8] (Device.new false) =
        ⟨1, ⟨false, after.sink.bytes⟩,
          "unidump: code point 1114112 is outside 0..=0x10FFFF\n"⟩ := by
  obtain ⟨after, ended, many⟩ := plain_beyond_last
  exact ⟨after, ended, many,
    (outcome_on_spacious_device _).2.2.1 _ after ended fun _ eq => nomatch eq⟩

/-- A plain call that succeeds also succeeds on a full device if it writes nothing, and in no other
case. -/
theorem run_full_of_ok {arguments : List Token} {lines : UInt64} {after : Session Capture}
    (ended : plain arguments = .ok lines after) :
    run arguments (Device.new true) =
      if after.sink.bytes.size = 0 then ⟨0, ⟨true, .empty⟩, ""⟩
      else ⟨1, ⟨true, .empty⟩, "unidump: " ++ (Fault.unwritten .noSpace).message ++ "\n"⟩ := by
  obtain ⟨ends, written⟩ := plan_of_plain (.ok _) ended
  rw [run, runOn_full, ends, ← written]
  by_cases nothing : after.sink.bytes.size = 0
  · rw [if_pos nothing, if_pos nothing, nothing]
    rfl
  · rw [if_neg nothing, if_neg nothing]
    split <;> rfl

/-- The fault of a plain call is told on a full device if the buffer can hold what is written before
it, and else that there is no space. -/
theorem run_full_of_error {arguments : List Token} {fault : Fault} {after : Session Capture}
    (ended : plain arguments = .error fault after) (points : ∀ given, fault ≠ .notTwoPoints given) :
    run arguments (Device.new true) =
      if after.sink.bytes.size ≤ 8192 then
        ⟨1, ⟨true, .empty⟩, "unidump: " ++ fault.message ++ "\n"⟩
      else ⟨1, ⟨true, .empty⟩, "unidump: " ++ (Fault.unwritten .noSpace).message ++ "\n"⟩ := by
  obtain ⟨ends, written⟩ := plan_of_plain (.error _) ended
  rw [run, runOn_full, ends, ← written, Buffered.capacity]
  split
  · exact Outcome.ofFault?_some points _
  · rfl

/-- The fault of a plain call is told in other words than that there is no space. -/
theorem message_ne_noSpace {arguments : List Token} {fault : Fault} {after : Session Capture}
    (ended : plain arguments = .error fault after) :
    fault.message ≠ (Fault.unwritten .noSpace).message := by
  intro same
  obtain ⟨refusal, rfl⟩ := Fault.eq_unwritten_of_message_eq same
  exact Invocation.ending_plan_ne_unwritten _ _ refusal (plan_of_plain (.error _) ended).1

/-- On a full device the program goes by the result of the plain call and by the number of bytes
that it writes, and by nothing else.  It succeeds exactly if the plain call succeeds and writes
nothing.  It tells the fault of the plain call exactly if there is one and the buffer can hold what
is written before it.  In all other cases, also if the fault of the plain call comes later, it tells
that the device has no space. -/
theorem outcome_on_full_device (arguments : List Token)
    (points : ∀ given after, plain arguments ≠ .error (.notTwoPoints given) after) :
    let outcome := run arguments (Device.new true)
    (outcome.status = 0 ∧ outcome.stderr = "" ↔
      ∃ lines after, plain arguments = .ok lines after ∧ after.sink.bytes = .empty) ∧
    (outcome.status = 1 ↔
      ¬ ∃ lines after, plain arguments = .ok lines after ∧ after.sink.bytes = .empty) ∧
    (∀ fault after, plain arguments = .error fault after →
      (outcome.stderr = "unidump: " ++ fault.message ++ "\n" ↔ after.sink.bytes.size ≤ 8192)) ∧
    (outcome.stderr =
        "unidump: failed to write output: No space left on device (os error 28)\n" ↔
      (∃ lines after, plain arguments = .ok lines after ∧ after.sink.bytes ≠ .empty) ∨
        ∃ fault after, plain arguments = .error fault after ∧ 8192 < after.sink.bytes.size) ∧
    outcome.stdout.received = .empty ∧
    ∀ other : Catalogue, other.SameTexts Catalogue.unicode →
      runOn other arguments (Device.new true) = outcome := by
  intro outcome
  have recut : ∀ other : Catalogue, other.SameTexts Catalogue.unicode →
      runOn other arguments (Device.new true) = outcome :=
    fun other same => runOn_of_sameTexts same arguments true
  have noSpace : "unidump: failed to write output: No space left on device (os error 28)\n" =
      "unidump: " ++ (Fault.unwritten .noSpace).message ++ "\n" := rfl
  have loud : "unidump: " ++ (Fault.unwritten .noSpace).message ++ "\n" ≠ "" := by decide
  rw [noSpace]
  cases ended : plain arguments with
  | ok lines after =>
    have rule : outcome = _ := run_full_of_ok ended
    by_cases nothing : after.sink.bytes = .empty
    · rw [if_pos (ByteArray.size_eq_zero_iff.2 nothing)] at rule
      refine ⟨?_, ?_, ?_, ?_, ?_, recut⟩ <;> simp [rule, nothing, loud.symm]
    · rw [if_neg (mt ByteArray.size_eq_zero_iff.1 nothing)] at rule
      refine ⟨?_, ?_, ?_, ?_, ?_, recut⟩ <;> simp [rule, nothing]
  | error fault after =>
    have rule : outcome = _ :=
      run_full_of_error ended fun given eq => points given after (eq ▸ ended)
    have other_words := message_ne_noSpace ended
    by_cases fits : after.sink.bytes.size ≤ 8192
    · rw [if_pos fits] at rule
      refine ⟨?_, ?_, ?_, ?_, ?_, recut⟩ <;> simp [rule, fits, other_words]
    · rw [if_neg fits] at rule
      refine ⟨?_, ?_, ?_, ?_, ?_, recut⟩ <;>
        simp [rule, fits, other_words.symm, Nat.lt_of_not_le fits]

/-- A refused point is told if it is the first one, and the full device is told if the refused point
comes behind more lines than the buffer can hold. -/
theorem full_device_before_and_behind_lines :
    let early := ["-1".toUTF8, "5".toUTF8]
    let late := ["1000000".toUTF8, "1114112".toUTF8]
    (∀ given after, plain early ≠ .error (.notTwoPoints given) after) ∧
    (run early (Device.new true)).stderr =
      "unidump: code point -1 is outside 0..=0x10FFFF\n" ∧
    (∀ given after, plain late ≠ .error (.notTwoPoints given) after) ∧
    (run late (Device.new true)).stderr =
      "unidump: failed to write output: No space left on device (os error 28)\n" := by
  intro early late
  obtain ⟨after, ended, nothing⟩ := plain_from_minus_one
  obtain ⟨after', ended', many⟩ := plain_beyond_last
  have points : ∀ given after, plain early ≠ .error (.notTwoPoints given) after := by
    intro given other
    rw [ended]
    simp
  have points' : ∀ given after, plain late ≠ .error (.notTwoPoints given) after := by
    intro given other
    rw [ended']
    simp
  have few : after.sink.bytes.size ≤ 8192 := by
    rw [nothing]
    decide
  exact ⟨points, ((outcome_on_full_device early points).2.2.1 _ after ended).2 few, points',
    (outcome_on_full_device late points').2.2.2.1.2 (.inr ⟨_, after', ended', many⟩)⟩

end Executable

end CodeChart
