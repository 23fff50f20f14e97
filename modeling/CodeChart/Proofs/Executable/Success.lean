import CodeChart.Proofs.Executable.Outcome
import Mathlib.Logic.Basic

/-!
# When the program succeeds

On a device with space the program succeeds for two tokens that spell the points of a span, if the
span is inverted or made of code points, and for no other tokens.  The lines that it prints then are
those of consecutive points (`begins_of_getElem?_lines`).  In every other case it either says on
standard output what it expects or tells a fault on standard error, and not both.
`status_eq_zero_iff` puts this together.
-/

namespace CodeChart

namespace Walk

/-- Each line of a walk over the code chart is one line and begins with its point. -/
theorem begins_of_getElem?_lines {span : Span} {i : Nat} {entry : Int64 × Line}
    (found : (survey Catalogue.unicode span.size span.start).lines[i]? = some entry) :
    '\n' ∉ entry.2.text.toList ∧
      ∃ rest, entry.2.text =
        "U+" ++ String.ofList (Text.Hex.padded (span.start.toInt + i).toNat) ++ "\t" ++ rest := by
  have place := toInt_of_getElem?_lines found
  obtain ⟨⟨least, greatest⟩, line⟩ := Catalogue.codePoint_of_unicode_eq_ok
    (resolved_of_mem_survey (List.mem_of_getElem? found))
  have begins := Entry.text_line_begins (Entry.ofCode (UInt32.ofNat entry.1.toInt.toNat))
  rw [Entry.toNat_code_of_codePoint least greatest, ← line, place] at begins
  refine ⟨?_, begins⟩
  rw [line]
  exact Entry.line_feed_not_mem_line _

end Walk

namespace Executable

open Invocation (SpellSpan)

/-- On a device with space the status tells whether the plan ends without a fault. -/
theorem status_spacious (arguments : List Token) :
    (run arguments (Device.new false)).status =
      match ((call arguments).plan Catalogue.unicode).ending with
      | .ok _ => 0
      | .error _ => 1 := by
  rw [run, runOn_spacious]
  cases ((call arguments).plan Catalogue.unicode).ending with
  | ok lines => rfl
  | error fault => cases fault <;> rfl

/-- The plan of the program ends without a fault exactly for two tokens that spell the points of a
span without a point or of a span of code points. -/
theorem ending_plan_unicode_eq_ok_iff {arguments : List Token} :
    (∃ lines, ((call arguments).plan Catalogue.unicode).ending = .ok lines) ↔
      ∃ span, SpellSpan arguments span ∧
        (span.stop < span.start ∨ 0 ≤ span.start ∧ span.stop ≤ 0x10FFFF) := by
  simp only [Invocation.ending_plan_eq_ok_iff, Invocation.decision_eq_ok_iff,
    Catalogue.covers_unicode_iff]
  rfl

/-- For such tokens nothing is told, and the lines of the walk are received. -/
theorem run_spacious_of_charted {arguments : List Token} {span : Span}
    (spelled : SpellSpan arguments span)
    (charted : span.stop < span.start ∨ 0 ≤ span.start ∧ span.stop ≤ 0x10FFFF) :
    let lines := (Walk.survey Catalogue.unicode span.size span.start).lines
    run arguments (Device.new false) = ⟨0, ⟨false, (Walk.printed lines).toUTF8⟩, ""⟩ ∧
      lines.length = span.size := by
  have found : (call arguments).decision = .ok span := Invocation.decision_eq_ok_iff.2 spelled
  obtain ⟨accepted, length, -⟩ := Walk.survey_of_covers (Catalogue.covers_unicode_iff.2 charted)
  refine ⟨?_, length⟩
  rw [run, runOn_spacious, Invocation.plan_of_ok found, Walk.Survey.ending, accepted,
    Invocation.Plan.output, Walk.Survey.text_actions]
  rfl

/-- If the plan ends in a fault, either standard output receives the usage and nothing is told, or
the fault is told under the name of the program. -/
theorem usage_xor_told {arguments : List Token} {fault : Fault}
    (ends : ((call arguments).plan Catalogue.unicode).ending = .error fault) :
    let outcome := run arguments (Device.new false)
    Xor (outcome.stdout.received = "Start and end points are required\n".toUTF8 ∧
        outcome.stderr = "")
      (outcome.stderr ≠ "" ∧ ∃ rest, outcome.stderr = "unidump: " ++ rest) := by
  intro outcome
  have decided : outcome = _ := runOn_spacious Catalogue.unicode arguments
  rw [ends, faultOf?] at decided
  by_cases points : ∃ given, fault = .notTwoPoints given
  · obtain ⟨given, rfl⟩ := points
    rw [Invocation.output_plan_of_notTwoPoints ends, Outcome.ofFault?_notTwoPoints,
      ByteArray.empty_append] at decided
    rw [decided]
    exact .inl ⟨⟨rfl, rfl⟩, fun told => told.1 rfl⟩
  · rw [Outcome.ofFault?_some fun given eq => points ⟨given, eq⟩] at decided
    have loud : outcome.stderr ≠ "" := by
      rw [decided]
      simp
    refine .inr ⟨⟨loud, fault.message ++ "\n", ?_⟩, fun quiet => loud quiet.2⟩
    rw [decided, String.append_assoc]

/-- On a device with space the status is zero exactly for two tokens that spell the points of a
span without a point or of a span of code points.  Nothing is told then, and standard output
receives one line for each point, in order, which begins with the point in hexadecimal.  For all
other tokens the status is one, and either standard output receives the usage and nothing is told,
or a fault is told under the name of the program; never both. -/
theorem status_eq_zero_iff (arguments : List Token) :
    let outcome := run arguments (Device.new false)
    (outcome.status = 0 ↔ ∃ span, SpellSpan arguments span ∧
      (span.stop < span.start ∨ 0 ≤ span.start ∧ span.stop ≤ 0x10FFFF)) ∧
    (∀ span, SpellSpan arguments span →
      span.stop < span.start ∨ 0 ≤ span.start ∧ span.stop ≤ 0x10FFFF →
      outcome.stderr = "" ∧ ∃ lines : List String,
        outcome.stdout.received = (String.join (lines.map (· ++ "\n"))).toUTF8 ∧
        (lines.length : Int) = max 0 (span.stop.toInt - span.start.toInt + 1) ∧
        ∀ (i : Nat) (line : String), lines[i]? = some line → '\n' ∉ line.toList ∧
          ∃ rest, line =
            "U+" ++ String.ofList (Text.Hex.padded (span.start.toInt + i).toNat) ++ "\t" ++ rest) ∧
    (outcome.status ≠ 0 → outcome.status = 1 ∧
      Xor (outcome.stdout.received = "Start and end points are required\n".toUTF8 ∧
          outcome.stderr = "")
        (outcome.stderr ≠ "" ∧ ∃ rest, outcome.stderr = "unidump: " ++ rest)) := by
  intro outcome
  have status : outcome.status = _ := status_spacious arguments
  refine ⟨?_, fun span spelled charted => ?_, fun failed => ?_⟩
  · rw [status, ← ending_plan_unicode_eq_ok_iff]
    cases ((call arguments).plan Catalogue.unicode).ending with
    | ok lines => simp
    | error fault => simp
  · obtain ⟨rule, length⟩ := run_spacious_of_charted spelled charted
    have printed : outcome = _ := rule
    rw [printed]
    refine ⟨rfl, (Walk.survey Catalogue.unicode span.size span.start).lines.map (·.2.text), ?_, ?_,
      fun i line at_place => ?_⟩
    · rw [List.map_map]
      rfl
    · rw [List.length_map, length, Span.size]
      omega
    · rw [List.getElem?_map, Option.map_eq_some_iff] at at_place
      obtain ⟨entry, at_place, rfl⟩ := at_place
      exact Walk.begins_of_getElem?_lines at_place
  · cases ends : ((call arguments).plan Catalogue.unicode).ending with
    | ok lines =>
      rw [ends] at status
      exact absurd status failed
    | error fault =>
      rw [ends] at status
      exact ⟨status, usage_xor_told ends⟩

/-- Three points across the first surrogate, the first one with a sign and a zero in front. -/
theorem status_zero_across_surrogates :
    let arguments := ["+055295".toUTF8, "55297".toUTF8]
    SpellSpan arguments ⟨55295, 55297⟩ ∧
    (run arguments (Device.new false)).status = 0 ∧
    (run arguments (Device.new false)).stderr = "" ∧
    ∃ lines : List String,
      (run arguments (Device.new false)).stdout.received =
        (String.join (lines.map (· ++ "\n"))).toUTF8 ∧
      (lines.length : Int) = 3 ∧
      ∀ line, lines[2]? = some line → ∃ rest, line = "U+D801\t" ++ rest := by
  intro arguments
  have spelled : SpellSpan arguments ⟨55295, 55297⟩ :=
    ⟨"+055295", "55297", rfl, Point.ofString_eq_ok_iff.1 rfl, Point.ofString_eq_ok_iff.1 rfl⟩
  have charted : (55297 : Int64) < 55295 ∨ (0 : Int64) ≤ 55295 ∧ (55297 : Int64) ≤ 0x10FFFF := by
    decide
  obtain ⟨status, printed, -⟩ := status_eq_zero_iff arguments
  obtain ⟨quiet, lines, received, length, begins⟩ := printed _ spelled charted
  refine ⟨spelled, status.2 ⟨_, spelled, charted⟩, quiet, lines, received, length, ?_⟩
  intro line third
  have code : "U+" ++ String.ofList (Text.Hex.padded ((55295 : Int64).toInt + (2 : Nat)).toNat) ++
      "\t" = "U+D801\t" := by decide
  rw [← code]
  exact (begins 2 line third).2

end Executable

end CodeChart
