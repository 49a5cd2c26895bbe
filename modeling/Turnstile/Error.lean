/-
# Errors

Why a configuration, a rule list or a request is refused, as causes, and the sentence for
each cause.
-/
import Turnstile.Duration
import Turnstile.Evaluation
import Turnstile.Rule.Error

namespace Turnstile

/-! ## 1. Configuration -/

/-- What is wrong with a configuration. -/
inductive ConfigFault where
  | missingFile
  | notText
  /-- Not a document of the format, or a value of the wrong kind. -/
  | badDocument
  /-- An entry of an access list is no block. -/
  | badListEntry (list entry : String) (error : BlockError)
  | emptyDefault
  | noParsers
  | duplicateId (rule : RuleId)
  | emptyRule (rule : RuleId)
  | unknownList (rule : RuleId) (list : String)
deriving DecidableEq, Repr

/-- The sentence for a fault.  Documents of the wrong form have no fixed one. -/
def ConfigFault.message : ConfigFault → String
  | missingFile => "Failed to read config file: No such file or directory (os error 2)"
  | notText => "Failed to read config file: stream did not contain valid UTF-8"
  | badDocument => "Failed to parse config"
  | badListEntry list entry error =>
    "Invalid CIDR block '" ++ entry ++ "' in access list '" ++ list ++ "': " ++ error.message
  | emptyDefault => "default_action must not be empty"
  | noParsers => "parser_pool.capacity must be greater than zero"
  | duplicateId rule => s!"Duplicate rule id: {rule.toNat}"
  | emptyRule rule => s!"Rule {rule.toNat} has empty text"
  | unknownList rule list => s!"Rule {rule.toNat} references unknown access list: {list}"

/-! ## 2. All errors -/

/-- Why something is refused. -/
inductive Error where
  | config (fault : ConfigFault)
  | parse (error : ParseError)
  | evaluation (error : EvaluationError)
  /-- No parser came back in time. -/
  | poolTimeout (waited : Duration)
  /-- No parser can come back, since the only caller there is waits for one. -/
  | poolStuck
deriving DecidableEq, Repr

/-- The sentence for an error. -/
def Error.message : Error → String
  | config fault => "Configuration error: " ++ fault.message
  | parse error => "Parse error: " ++ error.message
  | evaluation error => "Evaluation error: " ++ error.message
  | poolTimeout waited => s!"Timed out after {waited.text} waiting for a rule parser"
  | poolStuck => "No rule parser can come back"

end Turnstile
