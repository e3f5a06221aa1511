import Lathe.Startup

/-!
# The trainer as a program

The program starts the trainer and writes the log of the start to the console.
-/

/-- Start the trainer. The argument `--debug` lets details appear on the console. -/
def main (arguments : List String) : IO Unit :=
  for line in Lathe.Startup.console arguments do
    IO.eprintln line
