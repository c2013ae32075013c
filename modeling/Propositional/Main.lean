import Propositional.Tour

/-!
# The tour as a program

Running the program prints the tour of the library: its standard output to standard output, its
error output to standard error, and it exits with the tour's exit code.
-/

def main : IO UInt32 := do
  let t := Propositional.Tour.transcript
  IO.print t.stdout
  IO.eprint t.stderr
  return t.exitCode.toUInt32
