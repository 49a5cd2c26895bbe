/-
# Rules

A rule is a predicate tree and the action that it stands for.  Leaves test the client's address, the
host name or a header, or the client's hit count; inner nodes negate one child or join any number of
children.

* `Predicate.accessLists` names the lists that a tree refers to, in source order;
* `Predicate.joinAll` and `joinAny` join children, where one child stands for itself.
-/
import Turnstile.Block
import Turnstile.Pattern

namespace Turnstile

/-! ## 1. Trees -/

/-- A text of the request that rules can test: the host name, or a header by its name. -/
inductive Field where
  | host
  | header (name : String)
deriving DecidableEq, Repr

/-- A condition on a request. -/
inductive Predicate where
  /-- The client has this address. -/
  | addressIs (address : Address)
  /-- The client's address lies in the block. -/
  | addressIn (block : Block)
  /-- The client's address lies in the list of this name. -/
  | addressListed (list : String)
  /-- The field is there and has this value. -/
  | fieldIs (field : Field) (value : String)
  /-- The field is there and matches as a whole. -/
  | fieldMatches (field : Field) (pattern : Pattern)
  /-- The client has more hits than this. -/
  | hitsAbove (count : UInt64)
  | not (child : Predicate)
  /-- Every child holds; tried from left to right. -/
  | all (children : List Predicate)
  /-- Some child holds; tried from left to right. -/
  | any (children : List Predicate)

/-- A rule's identifier. -/
abbrev RuleId := UInt32

/-- A condition and what to answer when it holds. -/
structure Rule where
  id : RuleId
  predicate : Predicate
  action : String

namespace Predicate

/-! ## 2. Equality -/

mutual

/-- Whether two trees are equal. -/
def same : Predicate → Predicate → Bool
  | addressIs a, addressIs b => a == b
  | addressIn a, addressIn b => a == b
  | addressListed a, addressListed b => a == b
  | fieldIs f v, fieldIs g w => f == g && v == w
  | fieldMatches f p, fieldMatches g q => f == g && p == q
  | hitsAbove m, hitsAbove n => m == n
  | not p, not q => same p q
  | all ps, all qs => sameList ps qs
  | any ps, any qs => sameList ps qs
  | _, _ => false

/-- Whether two lists of trees are equal. -/
def sameList : List Predicate → List Predicate → Bool
  | [], [] => true
  | p :: ps, q :: qs => same p q && sameList ps qs
  | _, _ => false

end

mutual

theorem same_iff (p q : Predicate) : same p q = true ↔ p = q := by
  cases p with
  | not p => cases q <;> simp [same, same_iff p]
  | all ps => cases q <;> simp [same, sameList_iff ps]
  | any ps => cases q <;> simp [same, sameList_iff ps]
  | _ => cases q <;> simp [same]

theorem sameList_iff (ps qs : List Predicate) : sameList ps qs = true ↔ ps = qs := by
  cases ps with
  | nil => cases qs <;> simp [sameList]
  | cons p ps => cases qs <;> simp [sameList, same_iff p, sameList_iff ps]

end

instance : DecidableEq Predicate := fun p q => decidable_of_iff _ (same_iff p q)

/-! ## 3. Structure -/

mutual

/-- The lists that a tree refers to, in source order, as often as it does. -/
def accessLists : Predicate → List String
  | addressListed list => [list]
  | not child => accessLists child
  | all children => accessListsOf children
  | any children => accessListsOf children
  | _ => []

/-- The lists that several trees refer to. -/
def accessListsOf : List Predicate → List String
  | [] => []
  | p :: ps => accessLists p ++ accessListsOf ps

end

/-- Children that all have to hold; one child stands for itself. -/
def joinAll : List Predicate → Predicate
  | [p] => p
  | ps => all ps

/-- Children of which one has to hold; one child stands for itself. -/
def joinAny : List Predicate → Predicate
  | [p] => p
  | ps => any ps

/-- Several negations of a tree. -/
def negated : (times : Nat) → Predicate → Predicate
  | 0, p => p
  | times + 1, p => not (negated times p)

end Predicate

deriving instance DecidableEq for Rule

end Turnstile
