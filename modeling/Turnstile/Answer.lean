/-
# Answers to lines

What `eval` prints.  A gate answers each line that is not blank with one word: the action for the
request on it, or why there is none.

* `Gate.answer` answers one line; a line that holds no request leaves the gate as it is;
* `Gate.answerAll` answers the lines of a text in order, blank ones left out;
* `transcript` is what is printed, one answer a line.
-/
import Turnstile.Gate
import Turnstile.Snapshot
import Turnstile.Text.Blank

namespace Turnstile

open Turnstile.Text

/-- What a line gets. -/
inductive Answer where
  | action (label : String)
  | evaluationError
  | invalidAddress
  | invalidRequest
deriving DecidableEq, Repr

namespace Answer

/-- The text of an answer. -/
def text : Answer → String
  | action label => label
  | evaluationError => "evaluation-error"
  | invalidAddress => "invalid-address"
  | invalidRequest => "invalid-request"

end Answer

namespace Gate

/-- Answers a request by the active rules. -/
def answerRequest (g : Gate) (r : Request) : Answer × Gate :=
  match g.action g.active.rules r with
  | (.ok label, g) => (.action label, g)
  | (.error _, g) => (.evaluationError, g)

/-- Answers a line. -/
def answer (g : Gate) (line : String) : Answer × Gate :=
  match Snapshot.ofLine? line with
  | none => (.invalidRequest, g)
  | some s => match s.request? with
    | none => (.invalidAddress, g)
    | some r => g.answerRequest r

/-- Answers lines in order, and leaves out those that are blank. -/
def answerAll (g : Gate) : List String → List Answer × Gate
  | [] => ([], g)
  | line :: lines =>
    if allBlank line then g.answerAll lines
    else
      let (a, g) := g.answer line
      let (as, g) := g.answerAll lines
      (a :: as, g)

end Gate

/-- Answers as they are printed. -/
def transcript (answers : List Answer) : String :=
  String.join (answers.map fun a => a.text ++ "\n")

end Turnstile
