/-
# Access lists

Named lists of blocks.  A list holds an address when one of its blocks does; blocks of a family that
the address cannot be tested against hold nothing, so a list may mix families.  A name that no list
has holds nothing either.
-/
import Turnstile.Block
import Turnstile.Dictionary

namespace Turnstile

/-- Lists of blocks by name. -/
structure AccessLists where
  lists : Dictionary String (List Block) := .empty
deriving DecidableEq

namespace AccessLists

/-- No list. -/
def empty : AccessLists := {}

/-- The blocks under a name. -/
def get? (ls : AccessLists) (name : String) : Option (List Block) :=
  ls.lists.get? name

/-- Whether some list has the name. -/
def isDefined (ls : AccessLists) (name : String) : Bool :=
  ls.lists.contains name

/-- Sets the list under a name, in place of an earlier one. -/
def insert (ls : AccessLists) (name : String) (blocks : List Block) : AccessLists :=
  ⟨ls.lists.insert name blocks⟩

/-- How many names have a list. -/
def size (ls : AccessLists) : Nat :=
  ls.lists.size

/-- Whether a block takes an address for certain; a mismatch of families is a no. -/
def admits (address : Address) (block : Block) : Bool :=
  match block.contains address with
  | .ok holds => holds
  | .error _ => false

/-- Whether the list under a name holds an address. -/
def contains (ls : AccessLists) (name : String) (address : Address) : Bool :=
  match ls.get? name with
  | some blocks => blocks.any (admits address)
  | none => false

end AccessLists

end Turnstile
