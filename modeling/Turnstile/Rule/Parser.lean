/-
# Parsing rules

A rule reads

    rule        := disjunction "=>" word
    disjunction := conjunction ("||" conjunction)*
    conjunction := negation ("&&" negation)*
    negation    := "!" negation | "(" disjunction ")" | predicate
    predicate   := "IP" ("=" address | "~" block | "in" word)
                 | "Hits" ">" count
                 | ("Host" | word) ("=" string | "~" regex)

The parser takes one sign at a time.  Its state is what has been read: the finished parts of the
group that is being read and of the groups around it, and the place within the current predicate.  A
sign that the state has no use for is the error, at the position of that sign, so what has been read
before can always be completed.

* `State.feed` is the step;
* `parse` runs it over the signs of a text.

`Descent.parse` is the parser by recursive descent, which gives the same rules and the same errors
(`Descent.parse_eq`).

At most `maxDepth` signs `!` and `(` may be open at a time.  They are counted as they are taken, and
taken off the count when the operand is complete that they begin.
-/
import Turnstile.Address.Reader
import Turnstile.Block.Reader
import Turnstile.Rule.Predicate
import Turnstile.Rule.Scanner

namespace Turnstile.Parser

open Turnstile.Text

/-! ## 1. State -/

/-- The most signs `!` and `(` that may be open at a time. -/
def maxDepth : Nat := 64

/-- The inside of a group, or of the whole condition: finished disjuncts and the operands of
the current conjunction, both with the latest first, and the negation signs in front of the
next operand. -/
structure Level where
  disjuncts : List Predicate := []
  operands : List Predicate := []
  negations : Nat := 0
deriving DecidableEq

namespace Level

/-- Completes an operand. -/
def add (l : Level) (p : Predicate) : Level :=
  { l with operands := .negated l.negations p :: l.operands, negations := 0 }

/-- Completes the current conjunction. -/
def split (l : Level) : Level :=
  { l with disjuncts := .joinAll l.operands.reverse :: l.disjuncts, operands := [] }

/-- The whole inside, once its last operand is complete. -/
def value (l : Level) : Predicate :=
  .joinAny l.split.disjuncts.reverse

end Level

/-- Where the parser is within what it reads. -/
inductive Stage where
  /-- Before an operand. -/
  | operand
  | address
  | addressIs
  | addressIn
  | addressListed
  | field (f : Field)
  | fieldIs (f : Field)
  | fieldMatches (f : Field)
  | hits
  | hitsAbove
  /-- Behind an operand. -/
  | joint
  | action (condition : Predicate)
  | finish (condition : Predicate) (action : String)
  | done (condition : Predicate) (action : String)
deriving DecidableEq

/-- What has been read.  `outer` holds the levels around the current one, innermost first, and
`depth` counts the signs `!` and `(` that are open. -/
structure State where
  level : Level := {}
  outer : List Level := []
  stage : Stage := .operand
  depth : UInt64 := 0
deriving DecidableEq

/-- Takes signs off a count, one by one. -/
def leave (depth : UInt64) : (signs : Nat) → UInt64
  | 0 => depth
  | signs + 1 => leave (depth - 1) signs

namespace State

/-- Goes on to another stage. -/
def goto (st : State) (stage : Stage) : State :=
  { st with stage }

/-- Completes a predicate, and with it the negations in front. -/
def complete (st : State) (p : Predicate) : State :=
  { st with
    level := st.level.add p
    stage := .joint
    depth := leave st.depth st.level.negations }

/-! ## 2. Steps -/

/-- A count of hits: decimal digits, which one plus sign may precede. -/
def count? (word : String) : Option UInt64 :=
  let digits := match word.toList with
    | '+' :: rest => rest
    | cs => cs
  match decimal? digits with
  | some n => if n < UInt64.size then some (.ofNat n) else none
  | none => none

/-- The stage behind the first word of a predicate. -/
def subject (word : String) : Stage :=
  if word = "IP" then .address
  else if word = "Host" then .field .host
  else if word = "Hits" then .hits
  else .field (.header word)

/-- A sign where an operand has to begin. -/
def feedOperand (st : State) (t : TokenKind) : Except ParseFault State :=
  match t with
  | .word w => .ok (st.goto (subject w))
  | .bang =>
    if st.depth.toNat = maxDepth then .error (.tooDeep maxDepth)
    else .ok {
      level := { st.level with negations := st.level.negations + 1 }
      outer := st.outer
      depth := st.depth + 1 }
  | .openGroup =>
    if st.depth.toNat = maxDepth then .error (.tooDeep maxDepth)
    else .ok { outer := st.level :: st.outer, depth := st.depth + 1 }
  | _ => .error (.unexpected t .predicate)

/-- A sign behind an operand.  A closing parenthesis takes off its group and the negations in front
of that. -/
def feedJoint (st : State) (t : TokenKind) : Except ParseFault State :=
  match t, st.outer with
  | .both, _ => .ok (st.goto .operand)
  | .either, _ => .ok { st with level := st.level.split, stage := .operand }
  | .closeGroup, around :: outer =>
    .ok {
      level := around.add st.level.value
      outer
      stage := .joint
      depth := leave st.depth (around.negations + 1) }
  | .arrow, [] => .ok (st.goto (.action st.level.value))
  | _, _ :: _ => .error (.unexpected t .close)
  | _, [] => .error (.unexpected t .arrow)

/-- One more sign. -/
def feed (st : State) (t : TokenKind) : Except ParseFault State :=
  match st.stage, t with
  | .operand, _ => st.feedOperand t
  | .address, .equals => .ok (st.goto .addressIs)
  | .address, .tilde => .ok (st.goto .addressIn)
  | .address, .word w =>
    if w = "in" then .ok (st.goto .addressListed) else .error (.unexpected t .addressTest)
  | .address, _ => .error (.unexpected t .addressTest)
  | .addressIs, .word w => match Address.ofString? w with
    | some a => .ok (st.complete (.addressIs a))
    | none => .error (.badAddress w)
  | .addressIs, _ => .error (.unexpected t .address)
  | .addressIn, .word w => match Block.read w with
    | .ok b => .ok (st.complete (.addressIn b))
    | .error e => .error (.badBlock e)
  | .addressIn, _ => .error (.unexpected t .block)
  | .addressListed, .word w => .ok (st.complete (.addressListed w))
  | .addressListed, _ => .error (.unexpected t .listName)
  | .field f, .equals => .ok (st.goto (.fieldIs f))
  | .field f, .tilde => .ok (st.goto (.fieldMatches f))
  | .field _, _ => .error (.unexpected t .fieldTest)
  | .fieldIs f, .string s => .ok (st.complete (.fieldIs f s))
  | .fieldIs _, _ => .error (.unexpected t .quoted)
  | .fieldMatches f, .regex r => match Pattern.ofSource r with
    | .ok p => .ok (st.complete (.fieldMatches f p))
    | .error e => .error (.badRegex r e)
  | .fieldMatches _, _ => .error (.unexpected t .regex)
  | .hits, .greater => .ok (st.goto .hitsAbove)
  | .hits, _ => .error (.unexpected t .greater)
  | .hitsAbove, .word w => match count? w with
    | some n => .ok (st.complete (.hitsAbove n))
    | none => .error (.badCount w)
  | .hitsAbove, _ => .error (.unexpected t .hitCount)
  | .joint, _ => st.feedJoint t
  | .action p, .word w => .ok (st.goto (.finish p w))
  | .action _, _ => .error (.unexpected t .action)
  | .finish p a, .finish => .ok (st.goto (.done p a))
  | .finish _ _, _ => .error (.unexpected t .finish)
  | .done _ _, _ => .error (.unexpected t .finish)

end State

/-! ## 3. Workspaces -/

/-- What a parser keeps between two rules: the signs that it has not taken, and its state.
Both are set anew at the start of a rule and left as they are at its end. -/
structure Workspace where
  pending : List Token := []
  state : State := {}
deriving DecidableEq

namespace Workspace

/-- Takes the pending signs up to the first that cannot be right. -/
def take (state : State) : List Token → Except ParseError Unit × Workspace
  | [] => (.ok (), ⟨[], state⟩)
  | t :: ts => match state.feed t.kind with
    | .ok state => take state ts
    | .error fault => (.error ⟨fault, t.position⟩, ⟨t :: ts, state⟩)

/-- Where an error is placed behind the signs of a text: at the last one, and at no place if there
are none. -/
def endOf (tokens : List Token) : Position :=
  match tokens.getLast? with
  | some t => t.position
  | none => .unknown

/-- The rule that a state has read to the end of some signs.  The signs of a text end with the end
sign, and a state that has taken it is done. -/
def rule (id : RuleId) (tokens : List Token) (state : State) : Except ParseError Rule :=
  match state.stage with
  | .done predicate action => .ok ⟨id, predicate, action⟩
  | _ => .error ⟨.unexpected .finish .finish, endOf tokens⟩

/-- Parses a rule, and leaves what has been used behind. -/
def parse (w : Workspace) (id : RuleId) (text : String) : Except ParseError Rule × Workspace :=
  match Scanner.scan text.toList with
  | .error e => (.error e, { w with pending := [], state := {} })
  | .ok tokens =>
    let w := { w with pending := tokens, state := {} }
    match take w.state w.pending with
    | (.ok (), w) => (rule id tokens w.state, w)
    | (.error e, w) => (.error e, w)

end Workspace

/-- Parses a rule. -/
def parse (id : RuleId) (text : String) : Except ParseError Rule :=
  (Workspace.parse {} id text).1

end Turnstile.Parser
