import CodeChart.Entry
import CodeChart.Invocation
import CodeChart.Sink.Buffered

/-!
# The executable

The program charts the span that its tokens stand for, through a buffer, to a device, and hands over
what the buffer still holds when the walk is over, however it ended.  Then it says how it went: by
its status, and on standard error if there was a fault.  A fault of the walk is told rather than one
of the last hand-over.  If there are not two tokens it prints what it expects on standard output.
-/

namespace CodeChart.Executable

/-- What is left when the program has ended. -/
structure Outcome where
  /-- The exit status. -/
  status : UInt8
  /-- Standard output, with what it received. -/
  stdout : Device
  /-- What was written to standard error. -/
  stderr : String

/-- The error in which a computation ended, if it did, and the state in which it ended. -/
def ending {ε σ α : Type} : EStateM.Result ε σ α → Option ε × σ
  | .ok _ state => (none, state)
  | .error error state => (some error, state)

/-- Says how it went, with standard output as the walk has left it.

Without two tokens the device still has to take the line that says what the program expects.  On a
device that refuses this line the program breaks off, with another status and with a report of its
own on standard error.  That ending is not described: only the standard output given here is the one
that is left then. -/
def Outcome.ofFault? (stdout : Device) : Option Fault → Outcome
  | none => ⟨0, stdout, ""⟩
  | some (.notTwoPoints _) =>
    let (_, stdout) := ending (Device.write (Usage.message ++ "\n").toUTF8 stdout)
    ⟨1, stdout, ""⟩
  | some fault => ⟨1, stdout, Usage.name ++ ": " ++ fault.message ++ "\n"⟩

/-- The call that the tokens make of the program, which goes by its usual name. -/
def call (arguments : List Token) : Invocation :=
  ⟨some Usage.name.toUTF8, arguments⟩

/-- Runs the program on a catalogue, with these tokens and this device as standard output. -/
def runOn (catalogue : Catalogue) (arguments : List Token) (stdout : Device) : Outcome :=
  let (fault?, session) := ending
    ((call arguments).run catalogue ⟨Buffered.new stdout, Journal.empty .off⟩)
  let (refusal?, buffered) := ending (Buffered.flush session.sink)
  Outcome.ofFault? buffered.device (fault? <|> refusal?.map Fault.unwritten)

/-- Runs the program on the code chart. -/
def run (arguments : List Token) (stdout : Device) : Outcome :=
  runOn Catalogue.unicode arguments stdout

end CodeChart.Executable
