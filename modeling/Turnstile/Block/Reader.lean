/-
# Reading blocks

Block text is `address/length` with blanks around it.  `Block.read` names the first fault: no slash,
then the address, then digits that are missing or too many, then a length beyond the family's width,
then host bits.
-/
import Turnstile.Block
import Turnstile.Address.Reader

namespace Turnstile.Block

open Turnstile.Text

/-- What stands before and after the first slash. -/
def splitSlash (cs : List Char) : Option (List Char × List Char) :=
  match cs.span (· != '/') with
  | (front, _ :: back) => some (front, back)
  | (_, []) => none

/-- A length in decimal digits that 32 bits can hold. -/
def wideLength? (cs : List Char) : Option UInt32 :=
  (decimal? cs).bind fun n => if n < UInt32.size then some (.ofNat n) else none

/-- A length that one byte can hold. -/
def byteLength? (wide : UInt32) : Option UInt8 :=
  if wide.toNat < UInt8.size then some wide.toUInt8 else none

/-- A block in text form.  Lengths that no 32-bit number can hold count as malformed, and those that
no byte can hold as beyond the width of any family. -/
def read (s : String) : Except BlockError Block :=
  let cs := trim s.toList
  match splitSlash cs with
  | none => .error (.malformed (String.ofList cs))
  | some (front, back) => match Address.address? front with
    | none => .error (.badAddress (String.ofList front))
    | some address => match wideLength? back with
      | none => .error (.malformed (String.ofList cs))
      | some wide => match byteLength? wide with
        | none => .error (.badLength wide.toNat address.family)
        | some length => make address length.toNat

end Turnstile.Block
