import Formula.CommandLine

/-!
# The program

The program is the calculator.  The first argument `tabulate` calls the tabulator instead, and
`calculate` calls the calculator by name.

## Main definitions

* `Program.interact` — the calculator on what is typed
* `main` — the program
-/

namespace Formula.Program

/-- Answers the lines of the standard input until it ends, each after a prompt. -/
partial def interact (session : Session) : IO Unit := do
  IO.print prompt
  (← IO.getStdout).flush
  let line ← (← IO.getStdin).getLine
  match linesOf line with
  | text :: _ =>
    let (printed, after) := session.printed text
    IO.print printed
    interact after
  | [] => pure ()

/-- Prints the output of a command and gives its exit code. -/
def emit (output : Output) : IO UInt32 := do
  IO.print output.stdout
  IO.eprint output.stderr
  return output.code.toUInt32

/-- Calls the calculator: on its arguments, or else on what is typed. -/
def runCalculator : List String → IO UInt32
  | [] => do
    interact .initial
    return 0
  | arguments => emit (calculator arguments "")

end Formula.Program

open Formula Program in
/-- The program. -/
def main : List String → IO UInt32
  | "tabulate" :: arguments => emit (tabulator arguments)
  | "calculate" :: arguments => runCalculator arguments
  | arguments => runCalculator arguments
