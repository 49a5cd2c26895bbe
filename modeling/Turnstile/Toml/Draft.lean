/-
# Tables under construction

A document builds its tables piece by piece: headers open tables, assignments fill them, and both
may name tables on their way that nobody has opened.  How a table came to be decides what may still
be done to it, so the slots of a draft remember it.  A value that has been assigned is closed, also
if it is a table.

* `assign` sets a value under a path of keys, and makes the tables on its way;
* `openTable` and `openElement` are what headers do;
* `close` forgets how the tables came to be.
-/
import Turnstile.Toml.Value

namespace Turnstile.Toml

/-! ## 1. Slots -/

/-- How a table came to be. -/
inductive Origin where
  /-- Named on the way to the table of a header. -/
  | implied
  /-- Named on the way to an assigned value. -/
  | dotted
  /-- Opened by a header of its own. -/
  | header
deriving DecidableEq, Repr

/-- What stands under a key. -/
inductive Slot where
  | value (v : Value)
  | table (origin : Origin) (entries : List (String × Slot))
  /-- Tables that headers have added to a list, the latest first. -/
  | series (elements : List (List (String × Slot)))

/-- Entries in the order of their keys. -/
abbrev Draft := List (String × Slot)

/-- A path of keys; it is not empty. -/
structure Path where
  way : List String
  key : String
deriving DecidableEq, Repr

namespace Path

/-- All keys. -/
def keys (p : Path) : List String :=
  p.way ++ [p.key]

end Path

namespace Draft

/-! ## 2. Entries -/

/-- Sets the slot under a key, in the place that the order of keys gives it. -/
def put (key : String) (slot : Slot) : Draft → Draft
  | [] => [(key, slot)]
  | e :: es =>
    if key < e.1 then (key, slot) :: e :: es
    else if key = e.1 then (key, slot) :: es
    else e :: put key slot es

/-- Changes the table at the end of a way, making the tables that are missing.  Each table may have
been named by an earlier way of the same kind.  A way of keys to a value does not enter what headers
have opened, and ends only in a table that such ways have made.  A way of a header enters the latest
element of a list of tables. -/
def within (maker : Origin) (change : Draft → Option Draft) :
    (way : List String) → Draft → Option Draft
  | [], d => change d
  | key :: way, d => match d.lookup key with
    | none => do return d.put key (.table maker (← within maker change way []))
    | some (.table origin inner) =>
      if maker = .dotted ∧ (origin = .header ∨ (way = [] ∧ origin = .implied)) then none
      else do return d.put key (.table origin (← within maker change way inner))
    | some (.series (latest :: earlier)) =>
      if maker = .dotted then none
      else do return d.put key (.series ((← within maker change way latest) :: earlier))
    | some _ => none

/-! ## 3. What a document does -/

/-- Sets a value under a path that nothing stands under yet. -/
def assign (path : Path) (v : Value) : Draft → Option Draft :=
  within .dotted (fun d => match d.lookup path.key with
    | none => some (d.put path.key (.value v))
    | some _ => none) path.way

/-- The table of a header.  It may have been implied, but not opened or filled. -/
def openTable (path : Path) : Draft → Option Draft :=
  within .implied (fun d => match d.lookup path.key with
    | none => some (d.put path.key (.table .header []))
    | some (.table .implied inner) => some (d.put path.key (.table .header inner))
    | some _ => none) path.way

/-- One more element for the list of tables of a header. -/
def openElement (path : Path) : Draft → Option Draft :=
  within .implied (fun d => match d.lookup path.key with
    | none => some (d.put path.key (.series [[]]))
    | some (.series elements) => some (d.put path.key (.series ([] :: elements)))
    | some _ => none) path.way

/-! ## 4. The finished table -/

mutual

/-- The value of a slot. -/
def closeSlot : Slot → Value
  | .value v => v
  | .table _ entries => .table (close entries)
  | .series elements => .array (closeAll elements).reverse

/-- The entries of a finished table. -/
def close : List (String × Slot) → List (String × Value)
  | [] => []
  | (key, slot) :: es => (key, closeSlot slot) :: close es

/-- The tables of a list. -/
def closeAll : List (List (String × Slot)) → List Value
  | [] => []
  | d :: ds => .table (close d) :: closeAll ds

end

end Draft

end Turnstile.Toml
