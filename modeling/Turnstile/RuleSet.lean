/-
# Rule sets

Rules as they are configured, and lists of them as they are compiled.  The checks on a rule list are
made rule by rule, so the first rule that fails any of them decides the error: its identifier must
be new, its text must parse, and the lists that it names must be defined.
-/
import Turnstile.AccessList
import Turnstile.Error
import Turnstile.Rule.Printer

namespace Turnstile

/-- A rule as an operator writes it. -/
structure RuleSource where
  id : RuleId
  text : String
deriving DecidableEq, Repr

/-- Rules in the order in which they are tried. -/
structure RuleSet where
  rules : List Rule := []
deriving DecidableEq

namespace RuleSet

/-- How many rules there are. -/
def size (s : RuleSet) : Nat := s.rules.length

end RuleSet

namespace Rule

/-- The first list a rule names that is not defined. -/
def missingList? (r : Rule) (lists : AccessLists) : Option String :=
  r.predicate.accessLists.find? fun name => !lists.isDefined name

/-- The text of a rule behind its identifier. -/
def line (r : Rule) : String :=
  toString r.id.toNat ++ ": " ++ r.text

end Rule

end Turnstile
