/-
# Leaves of trees

A tree has its leaves in the order of the text it was read from.  The lists that a tree refers to
are those of its leaves, in their order (`Predicate.accessLists_eq_leaves`).
-/
import Turnstile.Rule.Predicate

namespace Turnstile

namespace Predicate

mutual

/-- The leaves of a tree, from left to right. -/
def leaves : Predicate → List Predicate
  | not child => leaves child
  | all children => leavesOf children
  | any children => leavesOf children
  | leaf => [leaf]

/-- The leaves of several trees. -/
def leavesOf : List Predicate → List Predicate
  | [] => []
  | p :: ps => leaves p ++ leavesOf ps

end

/-- The name that a leaf refers to a list by. -/
def listed? : Predicate → Option String
  | addressListed list => some list
  | _ => none

theorem listed?_eq_some_iff {p : Predicate} {list : String} :
    p.listed? = some list ↔ p = addressListed list := by
  cases p <;> simp [listed?]

mutual

/-- The lists that a tree refers to are those of its leaves, in their order, a list that is referred
to twice being there twice. -/
theorem accessLists_eq_leaves : ∀ p : Predicate, p.accessLists = p.leaves.filterMap listed?
  | not child => accessLists_eq_leaves child
  | all children => accessListsOf_eq_leaves children
  | any children => accessListsOf_eq_leaves children
  | addressListed _ => rfl
  | addressIs _ | addressIn _ | fieldIs _ _ | fieldMatches _ _ | hitsAbove _ => rfl

theorem accessListsOf_eq_leaves : ∀ ps : List Predicate,
    accessListsOf ps = (leavesOf ps).filterMap listed?
  | [] => rfl
  | p :: ps => by
    rw [accessListsOf, leavesOf, List.filterMap_append, accessLists_eq_leaves p,
      accessListsOf_eq_leaves ps]

end

theorem mem_accessLists {p : Predicate} {list : String} :
    list ∈ p.accessLists ↔ addressListed list ∈ p.leaves := by
  rw [accessLists_eq_leaves, List.mem_filterMap]
  constructor
  · rintro ⟨leaf, hleaf, hlist⟩
    rwa [listed?_eq_some_iff.1 hlist] at hleaf
  · exact fun h => ⟨_, h, rfl⟩

theorem accessLists_joinAll (ps : List Predicate) :
    (joinAll ps).accessLists = accessListsOf ps := by
  match ps with
  | [] | _ :: _ :: _ => rfl
  | [p] => rw [joinAll, accessListsOf, accessListsOf, List.append_nil]

theorem accessLists_joinAny (ps : List Predicate) :
    (joinAny ps).accessLists = accessListsOf ps := by
  match ps with
  | [] | _ :: _ :: _ => rfl
  | [p] => rw [joinAny, accessListsOf, accessListsOf, List.append_nil]

end Predicate

end Turnstile
