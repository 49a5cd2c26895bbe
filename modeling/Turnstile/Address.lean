/-
# Addresses

An address is a bit vector of its family's width.  IPv6 carries IPv4 in two ways, and the two
families are related through them only:

* the **mapped** form `::ffff:a.b.c.d`, which `canonical` folds back to IPv4;
* the **compatible** form `::a.b.c.d`, which `embedded?` also sees through.

`embedded?_mapped` and `embedded?_compatible` say that both forms give the IPv4 address back.
-/

namespace Turnstile

/-- The two families of addresses. -/
inductive Family where
  | v4
  | v6
deriving DecidableEq, Repr

namespace Family

/-- Bits in an address of the family. -/
def width : Family → Nat
  | v4 => 32
  | v6 => 128

/-- The family's name in messages. -/
def name : Family → String
  | v4 => "v4"
  | v6 => "v6"

end Family

/-- An address of either family, most significant bit first. -/
inductive Address where
  | v4 (bits : BitVec 32)
  | v6 (bits : BitVec 128)
deriving DecidableEq, Hashable, Repr

namespace Address

/-- The family of an address. -/
def family : Address → Family
  | v4 _ => .v4
  | v6 _ => .v6

/-- The address as an unsigned number. -/
def toNat : Address → Nat
  | v4 b => b.toNat
  | v6 b => b.toNat

/-! ## 1. IPv4 inside IPv6 -/

/-- An IPv6 address from its upper 96 and its lower 32 bits. -/
def joined (high : BitVec 96) (low : BitVec 32) : BitVec 128 :=
  high.append low

theorem joined_high (high : BitVec 96) (low : BitVec 32) :
    (joined high low).extractLsb' 32 96 = high :=
  BitVec.extractLsb'_append_eq_left

theorem joined_low (high : BitVec 96) (low : BitVec 32) :
    (joined high low).extractLsb' 0 32 = low :=
  BitVec.extractLsb'_append_eq_right

/-- The bits of `::ffff:a.b.c.d`. -/
def mapped (q : BitVec 32) : BitVec 128 :=
  joined 0xFFFF#96 q

/-- The bits of `::a.b.c.d`. -/
def compatible (q : BitVec 32) : BitVec 128 :=
  joined 0#96 q

/-- The IPv4 address of a mapped form. -/
def mapped? (b : BitVec 128) : Option (BitVec 32) :=
  if b.extractLsb' 32 96 = 0xFFFF#96 then some (b.extractLsb' 0 32) else none

/-- The IPv4 address of a compatible form. -/
def compatible? (b : BitVec 128) : Option (BitVec 32) :=
  if b.extractLsb' 32 96 = 0#96 then some (b.extractLsb' 0 32) else none

/-- The IPv4 address that an IPv6 address carries in either form. -/
def embedded? (b : BitVec 128) : Option (BitVec 32) :=
  (mapped? b).or (compatible? b)

theorem mapped?_mapped (q : BitVec 32) : mapped? (mapped q) = some q := by
  simp [mapped?, mapped, joined_high, joined_low]

theorem mapped?_compatible (q : BitVec 32) : mapped? (compatible q) = none := by
  simp [mapped?, compatible, joined_high]

theorem compatible?_compatible (q : BitVec 32) : compatible? (compatible q) = some q := by
  simp [compatible?, compatible, joined_high, joined_low]

theorem embedded?_mapped (q : BitVec 32) : embedded? (mapped q) = some q := by
  simp [embedded?, mapped?_mapped]

theorem embedded?_compatible (q : BitVec 32) : embedded? (compatible q) = some q := by
  simp [embedded?, mapped?_compatible, compatible?_compatible]

/-- Mapped addresses become the IPv4 address they stand for; all others stay. -/
def canonical : Address → Address
  | v4 q => v4 q
  | v6 b => match mapped? b with
    | some q => v4 q
    | none => v6 b

/-! ## 2. Comparison across families -/

/-- Equal addresses, where an IPv6 address that carries an IPv4 address equals it. -/
def same : Address → Address → Bool
  | v4 a, v4 b => a == b
  | v6 a, v6 b => a == b
  | v4 q, v6 b => embedded? b == some q
  | v6 b, v4 q => embedded? b == some q

/-! ## 3. Parts -/

/-- The base 256 digits of a number, most significant first, in a given count of places. -/
def bytesOf (places n : Nat) : List Nat :=
  (List.range places).reverse.map fun i => (n >>> (8 * i)) % 256

/-- The address in network byte order. -/
def bytes : Address → List Nat
  | v4 b => bytesOf 4 b.toNat
  | v6 b => bytesOf 16 b.toNat

/-- The eight groups of an IPv6 address, most significant first. -/
def groups (b : BitVec 128) : List Nat :=
  (List.range 8).reverse.map fun i => (b.toNat >>> (16 * i)) % 65536

end Address

end Turnstile
