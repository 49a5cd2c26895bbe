/-
# Address blocks

A block is a network: the addresses that share their first `length` bits with `base`.  The base is
the network address itself, so a block has one representation; the type holds that invariant.  The
addresses of a network are an interval, from the base to the address with all other bits set, and
that is how one is tested.

* `Network.contains` tests one address of the network's own width;
* `Block.contains` tests any address, and fails where the families cannot be reconciled;
* `Block.compare` orders blocks of both families by base and then by length.  Two IPv4 blocks are
  compared in their own bits, all others in the mapped space.
-/
import Turnstile.Address
import Turnstile.Address.Printer

namespace Turnstile

/-! ## 1. Networks of one width -/

/-- Ones in the first `length` of `w` places. -/
def networkMask (w length : Nat) : BitVec w :=
  BitVec.allOnes w <<< (w - length)

/-- Ones in the places behind the first `length`. -/
def hostMask (w length : Nat) : BitVec w :=
  BitVec.allOnes w >>> length

/-- All addresses of width `w` that agree with `base` in the first `length` bits, to which
`base` is cut. -/
structure Network (w : Nat) where
  base : BitVec w
  length : Nat
  length_le : length ≤ w
  aligned : base &&& networkMask w length = base
deriving DecidableEq, Repr

namespace Network

variable {w : Nat}

/-- The last address of the network. -/
def last (n : Network w) : BitVec w :=
  n.base ||| hostMask w n.length

/-- The address lies in the network: it comes between the first and the last one. -/
def contains (n : Network w) (a : BitVec w) : Bool :=
  n.base ≤ a && a ≤ n.last

end Network

/-! ## 2. Blocks -/

/-- A network of either family. -/
inductive Block where
  | v4 (network : Network 32)
  | v6 (network : Network 128)
deriving DecidableEq, Repr

/-- Why an address and a length make no block. -/
inductive BlockError where
  /-- Not of the form address, slash, digits. -/
  | malformed (text : String)
  /-- What stands before the slash is no address. -/
  | badAddress (text : String)
  /-- The family has fewer bits. -/
  | badLength (length : Nat) (family : Family)
  /-- A bit behind the first `length` is set. -/
  | hostBits (address : Address) (length hostBits : Nat)
deriving DecidableEq, Repr

/-- An address that cannot be tested against a block: the block is IPv4, and the address is
IPv6 and carries no IPv4 address. -/
structure FamilyMismatch where
  block : Block
  address : Address
deriving DecidableEq, Repr

namespace Block

/-- The block with a given network address and length. -/
def make (address : Address) (length : Nat) : Except BlockError Block :=
  if h : length ≤ address.family.width then
    match address with
    | .v4 b =>
      if ha : b &&& networkMask 32 length = b then .ok (.v4 ⟨b, length, h, ha⟩)
      else .error (.hostBits (.v4 b) length (32 - length))
    | .v6 b =>
      if ha : b &&& networkMask 128 length = b then .ok (.v6 ⟨b, length, h, ha⟩)
      else .error (.hostBits (.v6 b) length (128 - length))
  else .error (.badLength length address.family)

/-- The network address. -/
def base : Block → Address
  | v4 n => .v4 n.base
  | v6 n => .v6 n.base

/-- Bits that all addresses of the block share. -/
def length : Block → Nat
  | v4 n => n.length
  | v6 n => n.length

/-- The family of the block. -/
def family : Block → Family
  | v4 _ => .v4
  | v6 _ => .v6

/-- Whether the block holds IPv4 addresses. -/
def isIPv4 (b : Block) : Bool :=
  b.family == .v4

/-- The mask of the shared bits, as an address of the block's family. -/
def mask : Block → Address
  | v4 n => .v4 (networkMask 32 n.length)
  | v6 n => .v6 (networkMask 128 n.length)

/-- The mask of the free bits, as an address of the block's family. -/
def freeMask : Block → Address
  | v4 n => .v4 (hostMask 32 n.length)
  | v6 n => .v6 (hostMask 128 n.length)

/-- Whether the block holds an address.  An IPv4 block tests the IPv4 address that an IPv6 address
carries, and an IPv6 block both IPv6 forms of an IPv4 address. -/
def contains (block : Block) (address : Address) : Except FamilyMismatch Bool :=
  match block, address with
  | v4 n, .v4 a => .ok (n.contains a)
  | v6 n, .v6 a => .ok (n.contains a)
  | v4 n, .v6 a => match Address.embedded? a with
    | some q => .ok (n.contains q)
    | none => .error ⟨block, address⟩
  | v6 n, .v4 q => .ok (n.contains (Address.compatible q) || n.contains (Address.mapped q))

/-! ## 3. Order -/

/-- The base as it is compared: an IPv4 base beside another one by its own bits, which are
filled up with zeros, and beside an IPv6 base in the mapped space, where both families meet. -/
def orderKey (besideIPv4 : Bool) : Block → BitVec 128
  | v4 n => if besideIPv4 then n.base.append 0#96 else Address.mapped n.base
  | v6 n => n.base

/-- By base, then by length, so that an enclosing block of one family comes first. -/
def compare (a b : Block) : Ordering :=
  let both := a.isIPv4 && b.isIPv4
  (Ord.compare (a.orderKey both).toNat (b.orderKey both).toNat).then
    (Ord.compare a.length b.length)

/-! ## 4. Text -/

/-- Network address, slash, length. -/
def chars (b : Block) : List Char :=
  b.base.chars ++ '/' :: Nat.toDigits 10 b.length

/-- The text of a block. -/
def text (b : Block) : String :=
  String.ofList b.chars

instance : ToString Block := ⟨text⟩

end Block

/-- The sentence for a mismatch. -/
def FamilyMismatch.message (m : FamilyMismatch) : String :=
  s!"{m.address} is not an IPv4 compatible address (block {m.block})"

/-- The sentence for a failed block. -/
def BlockError.message : BlockError → String
  | .malformed text => s!"invalid CIDR block '{text}': expected <address>/<prefix length>"
  | .badAddress text => s!"invalid address '{text}' in CIDR block"
  | .badLength length family => s!"invalid prefix length {length} for IP{family.name} address"
  | .hostBits address length bits =>
    s!"illegal network address {address} for prefix length {length}: " ++
      s!"{bits} low order bits must be zero"

end Turnstile
