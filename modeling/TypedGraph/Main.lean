import TypedGraph.CommandLine.Run

/-!
# The program

Reads the files that the arguments name, runs the command on their texts, and prints
the outcome.
-/
open TypedGraph

/-- The text of a file, if it can be read. -/
def readText (path : String) : IO (Option String) := do
  try
    return some (← IO.FS.readFile path)
  catch _ => return none

def main (arguments : List String) : IO UInt32 := do
  let texts ← (CommandLine.paths arguments).mapM fun path => do return (path, ← readText path)
  let outcome := CommandLine.run (fun path => (texts.lookup path).join) arguments
  IO.print outcome.output
  outcome.messages.forM IO.eprintln
  return outcome.code.toUInt32
