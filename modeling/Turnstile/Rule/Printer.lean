/-
# Printing rules

A tree is laid out as signs with single blanks between some of them, and its text is their spelling.
Conjunctions bind tighter than disjunctions and both are weaker than all else; a child stands in
parentheses when it binds no tighter than its parent, unless it is a leaf or a negation.
-/
import Turnstile.Rule.Predicate
import Turnstile.Rule.Token

namespace Turnstile

/-! ## 1. Layout -/

/-- A sign, or the blank between two signs. -/
inductive Piece where
  | token (kind : TokenKind)
  | gap
deriving DecidableEq, Repr

/-- The characters of a piece. -/
def Piece.chars : Piece → List Char
  | token kind => kind.spelling
  | gap => [' ']

namespace Predicate

open Piece

/-- How tightly a tree binds. -/
def strength : Predicate → Nat
  | any _ => 0
  | all _ => 1
  | _ => 2

/-- The word for a field. -/
def fieldWord : Field → String
  | .host => "Host"
  | .header name => name

/-- A leaf of three signs. -/
def triple (subject : String) (relation object : TokenKind) : List Piece :=
  [token (.word subject), gap, token relation, gap, token object]

/-- Pieces in parentheses. -/
def group (pieces : List Piece) : List Piece :=
  token .openGroup :: pieces ++ [token .closeGroup]

mutual

/-- The pieces of a tree. -/
def layout : Predicate → List Piece
  | addressIs a => triple "IP" .equals (.word a.text)
  | addressIn b => triple "IP" .tilde (.word b.text)
  | addressListed list => triple "IP" (.word "in") (.word list)
  | fieldIs f v => triple (fieldWord f) .equals (.string v)
  | fieldMatches f p => triple (fieldWord f) .tilde (.regex p.source)
  | hitsAbove n => triple "Hits" .greater (.word (toString n.toNat))
  | not p =>
    token .bang :: if p.strength < 2 then group (layout p) else layout p
  | all ps => layoutList 1 .both ps
  | any ps => layoutList 0 .either ps

/-- The pieces of the children of a node of some strength, with the node's operator between
them. -/
def layoutList (strength : Nat) (operator : TokenKind) : List Predicate → List Piece
  | [] => []
  | p :: ps =>
    let first := if p.strength ≤ strength then group (layout p) else layout p
    match ps with
    | [] => first
    | _ :: _ => first ++ [gap, token operator, gap] ++ layoutList strength operator ps

end

/-- The text of a tree. -/
def text (p : Predicate) : String :=
  String.ofList (p.layout.flatMap Piece.chars)

end Predicate

/-! ## 2. Rules -/

namespace Rule

/-- The pieces of a rule. -/
def layout (r : Rule) : List Piece :=
  r.predicate.layout ++ [.gap, .token .arrow, .gap, .token (.word r.action)]

/-- The text of a rule. -/
def text (r : Rule) : String :=
  String.ofList (r.layout.flatMap Piece.chars)

instance : ToString Rule := ⟨text⟩

end Rule

end Turnstile
