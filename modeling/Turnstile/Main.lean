/-
# The program

Takes the command line, reads the files that the command names, prints what the command has to say,
and ends with its exit status.  Why a command failed goes to the standard error output.
-/
import Turnstile.Command.Outcome

namespace Turnstile

/-- The bytes of a file, if it can be read. -/
def readFile? (path : String) : IO (Option ByteArray) := do
  try return some (← IO.FS.readBinFile path)
  catch _ => return none

/-- All bytes of a stream. -/
partial def readAll (stream : IO.FS.Stream) (before : ByteArray) : IO ByteArray := do
  let more ← stream.read 65536
  if more.isEmpty then return before else readAll stream (before ++ more)

/-- The input of a command. -/
def readInput? : Command → IO (Option ByteArray)
  | .check => return none
  | .eval (some path) _ => readFile? path
  | .eval none _ => return some (← readAll (← IO.getStdin) .empty)

/-- Carries out a command line. -/
def perform (i : Invocation) : IO Ending := do
  match i.command.gate (← readFile? i.config) with
  | .error e =>
    IO.eprintln e.message
    return .failure
  | .ok g =>
    let outcome := i.command.finish g (← readInput? i.command)
    IO.print outcome.output
    if outcome.ending = .failure then IO.eprintln "The input could not be read"
    return outcome.ending

/-- How to call the program. -/
def usage : String :=
  "usage: turnstile --config FILE check\n" ++
    "       turnstile --config FILE eval [--input FILE] [--metrics]"

end Turnstile

open Turnstile in
/-- The program.  The environment may name the configuration file. -/
def main (args : List String) : IO UInt32 := do
  match Invocation.ofArguments? (← IO.getEnv "RULEGATE_CONFIG") args with
  | some i => return (← perform i).status
  | none =>
    IO.eprintln usage
    return Ending.misuse.status
