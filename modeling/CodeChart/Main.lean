import CodeChart.Executable

/-!
# The command line program

Runs the executable with the tokens of the command line, copies what it left to the standard streams
and ends with its status.  If standard output does not take the bytes, the program ends as it does
on a full device.
-/

/-- Runs the program with the given tokens. -/
def main (arguments : List String) : IO UInt32 := do
  let tokens := arguments.map String.toUTF8
  let stdout ← IO.getStdout
  let outcome := CodeChart.Executable.run tokens (CodeChart.Device.new false)
  let outcome ←
    try
      stdout.write outcome.stdout.received
      stdout.flush
      pure outcome
    catch _ => pure (CodeChart.Executable.run tokens (CodeChart.Device.new true))
  (← IO.getStderr).putStr outcome.stderr
  return outcome.status.toUInt32
