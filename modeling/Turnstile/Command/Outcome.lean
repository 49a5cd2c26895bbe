/-
# Outcomes

What a command prints and how it ends.  A configuration that cannot be used, an input that is not
there and an input that is no text are failures.

* `Command.gate` makes the gate for a command, before any input is looked at;
* `Gate.listing` and `Gate.evaluate` are what the two commands do with it;
* `Command.run` is both together.
-/
import Turnstile.Answer
import Turnstile.Command
import Turnstile.Config.Reader
import Turnstile.Metrics.Exposition
import Turnstile.Text.Lines

namespace Turnstile

/-- How a command ends. -/
inductive Ending where
  | success
  | failure
  /-- The command line asks for nothing that can be done. -/
  | misuse
deriving DecidableEq, Repr

/-- The exit status. -/
def Ending.status : Ending → UInt32
  | success => 0
  | failure => 1
  | misuse => 2

/-- How a command ends, and what it has printed. -/
structure Outcome where
  ending : Ending
  output : String := ""
deriving DecidableEq, Repr

namespace Gate

/-! ## 1. Checking -/

/-- The active rules, one a line, and the default action. -/
def listing (g : Gate) : String :=
  String.join (g.active.rules.map fun r => r.line ++ "\n") ++
    "default => " ++ g.defaultAction ++ "\n"

/-! ## 2. Evaluating -/

/-- The metrics behind the last answer, if there are any. -/
def report (g : Gate) : String :=
  match g.metrics with
  | some m => m.text
  | none => ""

/-- Answers all lines of a text. -/
def evaluateText (g : Gate) (text : String) : Outcome :=
  let (answers, g) := g.answerAll (Text.lines text)
  ⟨.success, transcript answers ++ g.report⟩

/-- Lines of bytes, each with its ending; `read` holds the beginning of the current one in
reverse. -/
def byteLines (read : List UInt8) : List UInt8 → List (List UInt8)
  | [] => if read.isEmpty then [] else [read.reverse]
  | b :: bs => if b = 10 then (b :: read).reverse :: byteLines [] bs else byteLines (b :: read) bs

/-- The lines in front of the first that is no text. -/
def textBefore (bytes : ByteArray) : String :=
  let decoded := (byteLines [] bytes.toList).map fun line =>
    String.fromUTF8? ⟨line.toArray⟩
  String.join ((decoded.takeWhile Option.isSome).filterMap id)

/-- Answers all lines of an input.  The first line that is no text ends the run. -/
def evaluate (g : Gate) (input : ByteArray) : Outcome :=
  match String.fromUTF8? input with
  | some text => g.evaluateText text
  | none => ⟨.failure, transcript (g.answerAll (Text.lines (textBefore input))).1⟩

end Gate

namespace Command

/-! ## 3. Running -/

/-- The metrics that a command begins with. -/
def metrics : Command → Option Metrics
  | eval _ true => some {}
  | _ => none

/-- The gate for a command, given the bytes of the configuration file if it is there. -/
def gate (c : Command) (config : Option ByteArray) : Except Error Gate :=
  match Config.load config with
  | .ok settings => Gate.ofConfig settings c.metrics
  | .error fault => .error (.config fault)

/-- What a command does with its gate, given its input if it is there. -/
def finish (c : Command) (g : Gate) (input : Option ByteArray) : Outcome :=
  match c, input with
  | check, _ => ⟨.success, g.listing⟩
  | eval .., some bytes => g.evaluate bytes
  | eval .., none => { ending := .failure }

/-- What a command does, given the bytes of the configuration file and of its input as far as
they are there. -/
def run (c : Command) (config input : Option ByteArray) : Outcome :=
  match c.gate config with
  | .ok g => c.finish g input
  | .error _ => { ending := .failure }

end Command

end Turnstile
