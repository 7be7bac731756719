import DocSelector.Command

/-!
# The program

Prints the outcome of the command line and exits with its code.
-/

/-- The program: its arguments are the words of the command line. -/
def main (arguments : List String) : IO UInt32 := do
  let outcome := DocSelector.runCommandLine arguments
  (← IO.getStdout).putStr outcome.output
  (← IO.getStderr).putStr outcome.errors
  return outcome.exitCode.toUInt32
