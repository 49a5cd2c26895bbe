/-
# Evaluation

A predicate tree is evaluated against the facts of a request, which are all that the context of an
evaluation can be asked.  Children are tried from left to right, and no further than the first that
decides; an address that a block cannot be tested against ends the evaluation with an error.  Beside
the outcome an evaluation records which facts it read, one for each leaf it came to.

* `evaluate` evaluates a tree;
* `firstMatch` finds the first rule of a list that holds.
-/
import Turnstile.AccessList
import Turnstile.Request
import Turnstile.Rule.Predicate

namespace Turnstile

/-! ## 1. Facts -/

/-- What a tree can ask for. -/
structure Facts where
  address : Address
  host : Option String
  header : String → Option String
  /-- The client's hits, the request under evaluation included. -/
  hits : UInt64
  inList : String → Bool

/-- The name of a fact. -/
inductive Fact where
  | address
  | host
  | header (name : String)
  | hits
  | list (name : String)
deriving DecidableEq, Repr

namespace Facts

/-- The facts of a request whose client has a given number of hits. -/
def ofRequest (r : Request) (hits : UInt64) (lists : AccessLists) : Facts where
  address := r.address
  host := r.host
  header := r.header?
  hits := hits
  inList name := lists.contains name r.address

/-- The value of a field, if the request has it. -/
def field (facts : Facts) : Field → Option String
  | .host => facts.host
  | .header name => facts.header name

end Facts

/-- The fact that tells a field. -/
def Field.fact : Field → Fact
  | host => .host
  | header name => .header name

/-! ## 2. Trees -/

/-- The outcome of an evaluation, and the facts read on the way. -/
structure Evaluation where
  outcome : Except FamilyMismatch Bool
  reads : List Fact

namespace Evaluation

/-- An outcome for which nothing had to be read. -/
def pure (holds : Bool) : Evaluation := ⟨.ok holds, []⟩

/-- An outcome that takes one fact. -/
def reading (fact : Fact) (holds : Bool) : Evaluation := ⟨.ok holds, [fact]⟩

/-- Goes on with what an outcome calls for.  An error stops. -/
def andThen (e : Evaluation) (next : Bool → Evaluation) : Evaluation :=
  match e.outcome with
  | .ok holds => ⟨(next holds).outcome, e.reads ++ (next holds).reads⟩
  | .error _ => e

/-- The opposite outcome. -/
def negate (e : Evaluation) : Evaluation :=
  { e with outcome := e.outcome.map (!·) }

end Evaluation

mutual

/-- Evaluates a tree. -/
def evaluate (facts : Facts) : Predicate → Evaluation
  | .addressIs a => .reading .address (a.same facts.address)
  | .addressIn b => ⟨b.contains facts.address, [.address]⟩
  | .addressListed list => .reading (.list list) (facts.inList list)
  | .fieldIs f v => .reading f.fact (facts.field f == some v)
  | .fieldMatches f p => .reading f.fact ((facts.field f).any p.isFullMatch)
  | .hitsAbove n => .reading .hits (n < facts.hits)
  | .not p => (evaluate facts p).negate
  | .all ps => evaluateAll facts ps
  | .any ps => evaluateAny facts ps

/-- Evaluates trees until one does not hold. -/
def evaluateAll (facts : Facts) : List Predicate → Evaluation
  | [] => .pure true
  | p :: ps => (evaluate facts p).andThen fun holds =>
    if holds then evaluateAll facts ps else .pure false

/-- Evaluates trees until one holds. -/
def evaluateAny (facts : Facts) : List Predicate → Evaluation
  | [] => .pure false
  | p :: ps => (evaluate facts p).andThen fun holds =>
    if holds then .pure true else evaluateAny facts ps

end

/-! ## 3. Lists of rules -/

/-- A rule that could not be evaluated. -/
structure EvaluationError where
  rule : RuleId
  mismatch : FamilyMismatch
deriving DecidableEq, Repr

/-- The sentence for an error. -/
def EvaluationError.message (e : EvaluationError) : String :=
  s!"rule {e.rule.toNat}: {e.mismatch.message}"

/-- The first rule that holds, if there is one, and the facts read on the way. -/
structure Selection where
  outcome : Except EvaluationError (Option Rule)
  reads : List Fact

/-- Tries rules in order until one holds or fails. -/
def firstMatch (facts : Facts) : List Rule → Selection
  | [] => ⟨.ok none, []⟩
  | r :: rs =>
    let e := evaluate facts r.predicate
    match e.outcome with
    | .error m => ⟨.error ⟨r.id, m⟩, e.reads⟩
    | .ok true => ⟨.ok (some r), e.reads⟩
    | .ok false =>
      let rest := firstMatch facts rs
      ⟨rest.outcome, e.reads ++ rest.reads⟩

end Turnstile
