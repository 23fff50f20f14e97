import CodeChart.Proofs.Executable.Outcome
import CodeChart.Proofs.Invocation.Texts
import CodeChart.Proofs.Text.Controls

/-!
# What the program says of a token that is no point

A token comes from outside and can hold anything, line ends and control sequences for a terminal
among it.  When the program says that it cannot be read, it quotes the token with escapes, so what
it says is one line with no such character in it, from which the token can still be read back.

`fault?_eq_unreadable_iff` says for which two texts the program ends so and which of them it tells.
`unreadable_point_is_told_on_one_line` adds what is on the two streams then.
-/

namespace CodeChart

namespace Fault

/-- Nothing in the words about a token breaks a line, whatever is in the token. -/
theorem not_breaks_of_mem_message_unreadable {token : String} {defect : Point.Defect} {c : Char}
    (mem : c ∈ (unreadable token defect).message.toList) : Text.breaks c = false := by
  have reason : defect.message.toList.all Text.isPlain = true := by cases defect <;> decide
  rw [message, messageWith_unreadable, String.toList_append, String.toList_append,
    String.toList_append] at mem
  simp only [List.mem_append] at mem
  rcases mem with ((front | quoted) | colon) | behind
  · exact Text.not_breaks_of_mem_plain (by decide) front
  · exact Text.not_breaks_of_mem_quoted quoted
  · exact Text.not_breaks_of_mem_plain (by decide) colon
  · exact Text.not_breaks_of_mem_plain reason behind

/-- The words about a token begin with an open quote. -/
theorem message_unreadable_begins (token : String) (defect : Point.Defect) :
    ∃ rest, (unreadable token defect).message = "invalid code point \"" ++ rest := by
  obtain ⟨behind, begins⟩ := Text.Escape.quoted_begins Text.isLiteral token
  refine ⟨behind ++ ": " ++ defect.message, ?_⟩
  rw [message, messageWith_unreadable, begins]
  simp only [← String.append_assoc]
  rfl

end Fault

namespace Executable

/-- The fault in which the call that the program makes ends on a device, if it ends in one. -/
def fault? (arguments : List Token) (stdout : Device) : Option Fault :=
  (ending ((call arguments).run Catalogue.unicode ⟨Buffered.new stdout, Journal.empty .off⟩)).1

/-- On a device with space the call ends as planned. -/
theorem fault?_spacious (arguments : List Token) :
    fault? arguments (Device.new false) =
      faultOf? ((call arguments).plan Catalogue.unicode).ending := by
  obtain ⟨after, ran, -, -⟩ := Invocation.run_of_accepts Buffered.accepts (call arguments)
    Catalogue.unicode (Buffered.new (Device.new false)) ⟨rfl, Nat.zero_le _⟩ (Journal.empty .off)
  rw [fault?, ran, ending_ofExcept]

/-- Of two texts the program tells the first one that spells no point, unless `--` is in front. -/
theorem fault?_eq_unreadable_iff {start stop token : String} {defect : Point.Defect} :
    fault? [start.toUTF8, stop.toUTF8] (Device.new false) = some (.unreadable token defect) ↔
      start ≠ "--" ∧ Span.FirstDefect start stop token defect := by
  rw [fault?_spacious, faultOf?_eq_some_iff,
    Invocation.ending_plan_eq_error_iff fun _ => Fault.noConfusion,
    Invocation.decision_of_texts rfl]
  split
  · next hyphens => exact iff_of_false (by simp) (fun told => told.1 hyphens)
  · next no_hyphens =>
    rw [and_iff_right no_hyphens, Span.ofTokens_pair_eq_unreadable_iff]

/-- The token that a line on standard error quotes. -/
def quotedOn? (line : String) : Option String :=
  (Fault.quoted? (String.ofList (line.toList.drop "unidump: ".length))).map Prod.fst

/-- A token that is told can be read back from the line on which it is told. -/
theorem quotedOn?_told (token : String) (defect : Point.Defect) :
    quotedOn? ("unidump: " ++ (Fault.unreadable token defect).message) = some token := by
  rw [quotedOn?, String.toList_append, List.drop_left' (by rfl), String.ofList_toList,
    Fault.message, Fault.quoted?_messageWith_unreadable, Option.map_some]

/-- A token that is told is told on standard error alone; standard output receives nothing. -/
theorem run_spacious_of_unreadable {arguments : List Token} {token : String} {defect : Point.Defect}
    (told : fault? arguments (Device.new false) = some (.unreadable token defect)) :
    run arguments (Device.new false) =
      ⟨1, ⟨false, .empty⟩, "unidump: " ++ (Fault.unreadable token defect).message ++ "\n"⟩ := by
  rw [fault?_spacious, faultOf?_eq_some_iff] at told
  have decided := (Invocation.ending_plan_eq_error_iff fun _ => Fault.noConfusion).1 told
  rw [run, runOn_spacious, told, Invocation.plan_of_error decided, faultOf?,
    Outcome.ofFault?_some fun _ => Fault.noConfusion]
  rfl

/-- For two texts of any length and content, the program ends with a token that is no point exactly
if the first text is not `--` and one of them spells no point, and the token is then the first such
text, whole.  In this case the status is one, standard output receives nothing, and standard error
receives one line.  The line begins with the name of the program and an open quote, it ends at the
only line feed, and nothing in it breaks it, whatever controls and separators are in the token,
which can be read back from it. -/
theorem unreadable_point_is_told_on_one_line (start stop : String) :
    let arguments := [start.toUTF8, stop.toUTF8]
    let outcome := run arguments (Device.new false)
    (∀ token defect, fault? arguments (Device.new false) = some (.unreadable token defect) ↔
      start ≠ "--" ∧ Span.FirstDefect start stop token defect) ∧
    ∀ token defect, fault? arguments (Device.new false) = some (.unreadable token defect) →
      outcome.status = 1 ∧ outcome.stdout.received = .empty ∧
      ∃ line, outcome.stderr = line ++ "\n" ∧
        (∃ rest, line = "unidump: invalid code point \"" ++ rest) ∧
        (∀ c ∈ line.toList, Text.breaks c = false) ∧
        quotedOn? line = some token := by
  intro arguments outcome
  refine ⟨fun token defect => fault?_eq_unreadable_iff, fun token defect told => ?_⟩
  have ended : outcome = _ := run_spacious_of_unreadable told
  rw [ended]
  refine ⟨rfl, rfl, "unidump: " ++ (Fault.unreadable token defect).message, rfl, ?_,
    fun c mem => ?_, quotedOn?_told token defect⟩
  · obtain ⟨rest, begins⟩ := Fault.message_unreadable_begins token defect
    refine ⟨rest, ?_⟩
    rw [begins, ← String.append_assoc]
    rfl
  · rw [String.toList_append, List.mem_append] at mem
    rcases mem with name | words
    · exact Text.not_breaks_of_mem_plain (by decide) name
    · exact Fault.not_breaks_of_mem_message_unreadable words

/-- Of two tokens that are no points the first is told; it holds a line feed, a sequence that clears
a terminal, a control of the second set and a line separator. -/
theorem hostile_token_is_told_on_one_line :
    let hostile := "65\n\x1b[2J\u0085\u2028"
    let arguments := [hostile.toUTF8, "x".toUTF8]
    fault? arguments (Device.new false) = some (.unreadable hostile .notADigit) ∧
    ∃ line, (run arguments (Device.new false)).stderr = line ++ "\n" ∧
      '\n' ∉ line.toList ∧ '\x1b' ∉ line.toList ∧ quotedOn? line = some hostile := by
  intro hostile arguments
  obtain ⟨decides, tells⟩ := unreadable_point_is_told_on_one_line hostile "x"
  have unread : Point.ofString "65\n\x1b[2J\u0085\u2028" = .error .notADigit := rfl
  have told : fault? arguments (Device.new false) = some (.unreadable hostile .notADigit) :=
    (decides hostile .notADigit).2 ⟨by decide, .start unread⟩
  obtain ⟨-, -, line, received, -, whole, back⟩ := tells hostile .notADigit told
  refine ⟨told, line, received, fun mem => ?_, fun mem => ?_, back⟩
  · exact absurd (whole _ mem) (by decide)
  · exact absurd (whole _ mem) (by decide)

end Executable

end CodeChart
