import Turnstile.Main
import Turnstile.Proofs.Address.Dotted
import Turnstile.Proofs.Address.Notation
import Turnstile.Proofs.Address.Order
import Turnstile.Proofs.Address.Shape
import Turnstile.Proofs.Command.Inert
import Turnstile.Proofs.Decision.MappedClient
import Turnstile.Proofs.Decision.RaceCount
import Turnstile.Proofs.Decision.Sweeping
import Turnstile.Proofs.Evaluation.AddressTests
import Turnstile.Proofs.Evaluation.Limits
import Turnstile.Proofs.Evaluation.Lists
import Turnstile.Proofs.Evaluation.Reads
import Turnstile.Proofs.Evaluation.Rewriting
import Turnstile.Proofs.Pattern.FullMatch
import Turnstile.Proofs.Pool.Desk
import Turnstile.Proofs.Rule.Descent
import Turnstile.Proofs.Rule.Height
import Turnstile.Proofs.Rule.Positions
import Turnstile.Proofs.RuleSet.Reload
