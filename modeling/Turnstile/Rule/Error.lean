/-
# Errors in rule text

What can be wrong with rule text, and where.  A scanner fault is placed at the start of the sign
that could not be read, a parser fault at the first sign that cannot be right.
-/
import Turnstile.Block
import Turnstile.Pattern.Flags
import Turnstile.Rule.Token

namespace Turnstile

open Turnstile.Text

/-- What the parser was ready to read. -/
inductive Expectation where
  | predicate
  | addressTest
  | address
  | block
  | listName
  | fieldTest
  | quoted
  | regex
  | greater
  | hitCount
  | close
  | arrow
  | action
  | finish
deriving DecidableEq, Repr

/-- The words for an expectation. -/
def Expectation.text : Expectation → String
  | predicate => "predicate"
  | addressTest => "'=', '~' or 'in'"
  | address => "IP address"
  | block => "CIDR block"
  | listName => "access list name"
  | fieldTest => "'=' or '~'"
  | quoted => "quoted string"
  | regex => "/regex/"
  | greater => "'>'"
  | hitCount => "hit count"
  | close => "')'"
  | arrow => "'=>'"
  | action => "action"
  | finish => "end of rule"

/-- A literal with an end of its own. -/
inductive Literal where
  | string
  | regex
deriving DecidableEq, Repr

/-- The word for a literal. -/
def Literal.text : Literal → String
  | string => "string"
  | regex => "regex"

/-- What is wrong with rule text. -/
inductive ParseFault where
  | unexpected (found : TokenKind) (expected : Expectation)
  /-- Half of an operator of two equal signs. -/
  | unexpectedChar (c : Char)
  | unterminated (literal : Literal)
  | badAddress (text : String)
  | badBlock (error : BlockError)
  | badRegex (source : String) (fault : Pattern.Fault)
  | badCount (text : String)
  | tooDeep (limit : Nat)
deriving DecidableEq, Repr

/-- The sentence for a fault. -/
def ParseFault.message : ParseFault → String
  | unexpected found expected => s!"unexpected {found.name}, expected {expected.text}"
  | unexpectedChar c => "unexpected character '" ++ String.singleton c ++ "'"
  | unterminated literal => s!"unterminated {literal.text} literal"
  | badAddress text => "invalid IP address '" ++ text ++ "'"
  | badBlock error => error.message
  | badRegex source _ => "invalid regular expression /" ++ source ++ "/"
  | badCount text => "invalid hit count '" ++ text ++ "'"
  | tooDeep limit => s!"rule nested deeper than {limit} levels"

/-- A fault and its place. -/
structure ParseError where
  fault : ParseFault
  position : Position
deriving DecidableEq, Repr

/-- The sentence for an error. -/
def ParseError.message (e : ParseError) : String :=
  s!"{e.fault.message} at {e.position.text}"

end Turnstile
