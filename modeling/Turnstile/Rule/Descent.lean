/-
# Parsing rules by descent

The recursive-descent parser of the rule language, which is its grammar as it is written: one
function for each line, which reads from a cursor over the signs of a text and calls the functions
for the parts.  An error stands at the sign under the cursor, or at the literal that could not be
read.

    rule        := disjunction "=>" word
    disjunction := conjunction ("||" conjunction)*
    conjunction := negation ("&&" negation)*
    negation    := "!" negation | "(" disjunction ")" | predicate

`Parser.State.feed` reads the same language one sign at a time, and keeps on stacks of its own what
is kept here by the calls that are open.  A call of `negation` makes one within itself only behind a
sign that it has entered, and a repetition goes on only behind a sign that it has taken.  Both are
counted here: a descent whose calls or turns run out has no result at all.
-/
import Turnstile.Rule.Parser

namespace Turnstile.Parser

open Turnstile.Text

/-! ## 1. Cursors -/

/-- A place among the signs of a text: how many of them have been taken, and how many of those were
`!` and `(` whose operand is not complete. -/
structure Cursor where
  tokens : List Token
  taken : Nat := 0
  depth : UInt64 := 0

namespace Cursor

/-- The sign under the cursor.  Behind the last sign there are end signs only. -/
def kind (c : Cursor) : TokenKind :=
  match c.tokens[c.taken]? with
  | some t => t.kind
  | none => .finish

/-- Where an error is placed: at the sign under the cursor, behind the last sign at that one, and at
no place if there are none. -/
def position (c : Cursor) : Position :=
  match c.tokens[c.taken]?.or c.tokens.getLast? with
  | some t => t.position
  | none => .unknown

/-- Over the next sign, if there is one. -/
def advance (c : Cursor) : Cursor :=
  if c.taken < c.tokens.length then { c with taken := c.taken + 1 } else c

end Cursor

/-! ## 2. Steps -/

/-- A computation that moves a cursor and may end in an error, or run out of calls. -/
abbrev Descent := ExceptT ParseError (StateT Cursor Option)

namespace Descent

/-- No result, since the calls or turns have run out. -/
def exhausted {α : Type} : Descent α :=
  ExceptT.mk fun _ => none

/-- The sign under the cursor. -/
def peek : Descent TokenKind :=
  return (← get).kind

/-- Takes it. -/
def skip : Descent Unit :=
  modify Cursor.advance

/-- The sign under the cursor is none that could stand there. -/
def unexpected {α : Type} (expected : Expectation) : Descent α := do
  let c ← get
  throw ⟨.unexpected c.kind expected, c.position⟩

/-- Takes one certain sign. -/
def expect (kind : TokenKind) (expected : Expectation) : Descent Unit := do
  if (← peek) = kind then skip else unexpected expected

/-- Takes a sign that carries a text, and reads the text.  What cannot be read is an error at the
sign. -/
def literal {α : Type} (text? : TokenKind → Option String) (expected : Expectation)
    (read : String → Except ParseFault α) : Descent α := do
  let position := (← get).position
  match text? (← peek) with
  | some text =>
    skip
    match read text with
    | .ok a => return a
    | .error fault => throw ⟨fault, position⟩
  | none => unexpected expected

/-- Enters an operand of `!` or a group, unless too many are open. -/
def enter : Descent Unit := do
  let c ← get
  if c.depth.toNat = maxDepth then throw ⟨.tooDeep maxDepth, c.position⟩
  else set { c with depth := c.depth + 1 }

/-- Leaves it. -/
def leave : Descent Unit :=
  modify fun c => { c with depth := c.depth - 1 }

/-! ## 3. Literals -/

/-- The text of a word. -/
def word? : TokenKind → Option String
  | .word w => some w
  | _ => none

/-- The text that a string literal stands for. -/
def string? : TokenKind → Option String
  | .string s => some s
  | _ => none

/-- The source in a regex literal. -/
def regex? : TokenKind → Option String
  | .regex source => some source
  | _ => none

/-- A word that is an address. -/
def readAddress (w : String) : Except ParseFault Address :=
  match Address.ofString? w with
  | some a => .ok a
  | none => .error (.badAddress w)

/-- A word that is a block. -/
def readBlock (w : String) : Except ParseFault Block :=
  (Block.read w).mapError .badBlock

/-- A word that is a count of hits. -/
def readCount (w : String) : Except ParseFault UInt64 :=
  match State.count? w with
  | some n => .ok n
  | none => .error (.badCount w)

/-- A source that is a pattern. -/
def readPattern (source : String) : Except ParseFault Pattern :=
  (Pattern.ofSource source).mapError (.badRegex source)

/-- Any word. -/
def word (expected : Expectation) : Descent String :=
  literal word? expected .ok

/-! ## 4. Predicates -/

/-- Behind `IP`. -/
def addressTest : Descent Predicate := do
  match ← peek with
  | .equals =>
    skip
    return .addressIs (← literal word? .address readAddress)
  | .tilde =>
    skip
    return .addressIn (← literal word? .block readBlock)
  | .word w =>
    if w = "in" then
      skip
      return .addressListed (← word .listName)
    else unexpected .addressTest
  | _ => unexpected .addressTest

/-- Behind the name of a field. -/
def fieldTest (f : Field) : Descent Predicate := do
  match ← peek with
  | .equals =>
    skip
    return .fieldIs f (← literal string? .quoted .ok)
  | .tilde =>
    skip
    return .fieldMatches f (← literal regex? .regex readPattern)
  | _ => unexpected .fieldTest

/-- Behind `Hits`. -/
def hitTest : Descent Predicate := do
  expect .greater .greater
  return .hitsAbove (← literal word? .hitCount readCount)

/-- A predicate. -/
def predicate : Descent Predicate := do
  let subject ← word .predicate
  if subject = "IP" then addressTest
  else if subject = "Host" then fieldTest .host
  else if subject = "Hits" then hitTest
  else fieldTest (.header subject)

/-! ## 5. Rules -/

/-- Items with a sign between them, as many as there are. -/
def chain {α : Type} (sign : TokenKind) (item : Descent α) : (turns : Nat) → Descent (List α)
  | 0 => exhausted
  | turns + 1 => do
    let first ← item
    if (← peek) = sign then
      skip
      return first :: (← chain sign item turns)
    else return [first]

/-- Operands with `&&` between them. -/
def conjunction (turns : Nat) (operand : Descent Predicate) : Descent Predicate := do
  return .joinAll (← chain .both operand turns)

/-- Conjunctions with `||` between them. -/
def disjunction (turns : Nat) (operand : Descent Predicate) : Descent Predicate := do
  return .joinAny (← chain .either (conjunction turns operand) turns)

/-- An operand, with at most so many calls of this function open at a time. -/
def negation (turns : Nat) : (calls : Nat) → Descent Predicate
  | 0 => exhausted
  | calls + 1 => do
    match ← peek with
    | .bang =>
      enter
      skip
      let p ← negation turns calls
      leave
      return .not p
    | .openGroup =>
      enter
      skip
      let p ← disjunction turns (negation turns calls)
      expect .closeGroup .close
      leave
      return p
    | _ => predicate

/-- A whole rule, with bounds for the turns of a repetition and for the calls of `negation`. -/
def ruleWithin (turns calls : Nat) (id : RuleId) : Descent Rule := do
  let condition ← disjunction turns (negation turns calls)
  expect .arrow .arrow
  let action ← word .action
  expect .finish .finish
  return ⟨id, condition, action⟩

/-- A whole rule.  No repetition has more turns than there are signs, and one call of `negation` is
open besides those behind a sign that was entered. -/
def rule (id : RuleId) : Descent Rule := do
  ruleWithin (← get).tokens.length (maxDepth + 1) id

/-- Parses a rule. -/
def parse (id : RuleId) (text : String) : Option (Except ParseError Rule) :=
  match Scanner.scan text.toList with
  | .error e => some (.error e)
  | .ok tokens => ((rule id).run.run { tokens }).map Prod.fst

end Descent

end Turnstile.Parser
