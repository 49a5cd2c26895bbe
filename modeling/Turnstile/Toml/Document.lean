/-
# TOML documents

A document is a sequence of statements, each on a line of its own: assignments, headers that open a
table, and headers that add a table to a list.  Values may hold values, in arrays and in tables on
one or several lines.

* `value` reads one value from the signs of a document;
* `statements` reads all statements, and `run` carries them out on an empty draft;
* `read?` gives the table of a document, or nothing if the document is not well formed.
-/
import Turnstile.Toml.Draft
import Turnstile.Toml.Scalar
import Turnstile.Toml.Token

namespace Turnstile.Toml

namespace Document

/-! ## 1. Space -/

/-- Without spaces and tabs in front. -/
def skipGap : List Token → List Token
  | .gap _ :: ts => ts
  | ts => ts

/-- Without spaces, tabs and line breaks in front. -/
def skipSpace : List Token → List Token
  | .gap _ :: ts => skipSpace ts
  | .newline :: ts => skipSpace ts
  | ts => ts

/-- The next line; at the end of a document there is none. -/
def endLine (ts : List Token) : Option (List Token) :=
  match skipGap ts with
  | [] => some []
  | .newline :: ts => some ts
  | _ => none

/-! ## 2. Keys -/

/-- Characters of a bare key. -/
def isKeyChar (c : Char) : Bool :=
  c.isAlphanum || c == '_' || c == '-'

/-- One key: a bare word or a quoted text. -/
def key? : Token → Option String
  | .bare cs => if cs.all isKeyChar then some (String.ofList cs) else none
  | .quoted s => some s
  | _ => none

/-- Keys with dots between them.  The path is not empty; `way` holds its keys so far in reverse. -/
def path : (fuel : Nat) → (way : List String) → List Token → Option (Path × List Token)
  | 0, _, _ => none
  | fuel + 1, way, ts => match skipGap ts with
    | t :: ts => do
      let key ← key? t
      match skipGap ts with
      | .dot :: ts => path fuel (key :: way) ts
      | ts => return (⟨way.reverse, key⟩, ts)
    | [] => none

/-! ## 3. Values -/

/-- The rest of a bare word in which there are dots. -/
def dotted : List Token → List Char × List Token
  | .dot :: .bare cs :: ts =>
    let (more, ts) := dotted ts
    ('.' :: cs ++ more, ts)
  | .dot :: ts =>
    let (more, ts) := dotted ts
    ('.' :: more, ts)
  | ts => ([], ts)

/-- A bare value.  Behind a date, one space and another word belong to it. -/
def bareValue (cs : List Char) (ts : List Token) : Option (Value × List Token) := do
  let (more, ts) := dotted ts
  let (cs, ts) := match Moment.isDate (cs ++ more), ts with
    | true, .gap [' '] :: .bare time :: ts =>
      let (fraction, ts) := dotted ts
      (cs ++ more ++ ' ' :: time ++ fraction, ts)
    | _, ts => (cs ++ more, ts)
  return (← scalar? cs, ts)

/-- How deep arrays and tables may be nested in each other. -/
def maxDepth : Nat := 80

mutual

/-- A value inside of `depth` others.  Each call takes at least one sign, so the fuel, one more than
the signs left, is never used up. -/
def value : (fuel : Nat) → (depth : Nat) → List Token → Option (Value × List Token)
  | 0, _, _ => none
  | fuel + 1, depth, ts => match ts with
    | .quoted s :: ts => some (.string s, ts)
    | .lines s :: ts => some (.string s, ts)
    | .bare cs :: ts => bareValue cs ts
    | .openArray :: ts => if maxDepth ≤ depth then none else items fuel (depth + 1) [] ts
    | .openTable :: ts => if maxDepth ≤ depth then none else pairs fuel (depth + 1) [] ts
    | _ => none

/-- The inside of an array, with the values so far in reverse. -/
def items : (fuel : Nat) → (depth : Nat) → (before : List Value) → List Token →
    Option (Value × List Token)
  | 0, _, _, _ => none
  | fuel + 1, depth, before, ts => match skipSpace ts with
    | .closeArray :: ts => some (.array before.reverse, ts)
    | ts => do
      let (v, ts) ← value fuel depth ts
      match skipSpace ts with
      | .comma :: ts => items fuel depth (v :: before) ts
      | .closeArray :: ts => return (.array (v :: before).reverse, ts)
      | _ => none

/-- The inside of a table in braces, with what has been assigned so far. -/
def pairs : (fuel : Nat) → (depth : Nat) → (before : Draft) → List Token →
    Option (Value × List Token)
  | 0, _, _, _ => none
  | fuel + 1, depth, before, ts => match skipSpace ts with
    | .closeTable :: ts => some (.table (Draft.close before), ts)
    | ts => do
      let (p, ts) ← path fuel [] ts
      let (v, ts) ← match ts with
        | .equals :: ts => value fuel depth (skipGap ts)
        | _ => none
      let d ← before.assign p v
      match skipSpace ts with
      | .comma :: ts => pairs fuel depth d ts
      | .closeTable :: ts => return (.table (Draft.close d), ts)
      | _ => none

end

/-! ## 4. Statements -/

/-- What one line of a document says. -/
inductive Statement where
  | assign (path : Path) (v : Value)
  | openTable (path : Path)
  | openElement (path : Path)

/-- One statement, without the end of its line. -/
def statement (fuel : Nat) : List Token → Option (Statement × List Token)
  | .openArray :: .openArray :: ts => do
    match ← path fuel [] ts with
    | (p, .closeArray :: .closeArray :: ts) => return (.openElement p, ts)
    | _ => none
  | .openArray :: ts => do
    match ← path fuel [] ts with
    | (p, .closeArray :: ts) => return (.openTable p, ts)
    | _ => none
  | ts => do
    match ← path fuel [] ts with
    | (p, .equals :: ts) =>
      let (v, ts) ← value fuel 0 (skipGap ts)
      return (.assign p v, ts)
    | _ => none

/-- All statements, added to those before. -/
def statements : (fuel : Nat) → (before : List Statement) → List Token →
    Option (List Statement)
  | 0, _, _ => none
  | fuel + 1, before, ts => match skipSpace ts with
    | [] => some before.reverse
    | ts => do
      let (s, ts) ← statement fuel ts
      statements fuel (s :: before) (← endLine ts)

/-- A draft, and the way of the header under which assignments stand. -/
structure State where
  draft : Draft := []
  home : List String := []

/-- Carries out one statement.  Assignments go to the table of the latest header. -/
def State.run (st : State) : Statement → Option State
  | .assign p v => do
    return { st with draft := ← st.draft.within .implied (·.assign p v) st.home }
  | .openTable p => do return { draft := ← st.draft.openTable p, home := p.keys }
  | .openElement p => do return { draft := ← st.draft.openElement p, home := p.keys }

end Document

/-! ## 5. Whole documents -/

/-- The entries of a document's table, in the order of their keys. -/
def read? (text : String) : Option (List (String × Value)) := do
  let ts ← tokens? text
  let all ← Document.statements (ts.length + 1) [] ts
  let st ← all.foldlM Document.State.run {}
  return Draft.close st.draft

end Turnstile.Toml
