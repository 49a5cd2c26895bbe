/-
# Printing addresses

The usual text forms: four decimal bytes for IPv4; for IPv6 lower-case groups without leading zeros,
where the first of the longest runs of two or more zero groups is written `::`.  Mapped addresses,
and only they, end in a dotted quad.
-/
import Turnstile.Address
import Turnstile.Text.Number

namespace Turnstile.Address

/-! ## 1. IPv4 -/

/-- Four decimal bytes with dots between them. -/
def ipv4Chars (q : BitVec 32) : List Char :=
  List.intercalate ['.'] ((bytesOf 4 q.toNat).map (Nat.toDigits 10))

/-! ## 2. IPv6 -/

/-- Start and length of the longest run of zero groups, the first one among equals. -/
def zeroRun : List Nat → Nat × Nat
  | [] => (0, 0)
  | g :: gs =>
    let here := ((g :: gs).takeWhile (· == 0)).length
    let (start, length) := zeroRun gs
    if length ≤ here then (0, here) else (start + 1, length)

/-- Groups with colons between them. -/
def groupChars (gs : List Nat) : List Char :=
  List.intercalate [':'] (gs.map (Nat.toDigits 16))

/-- IPv6 text: mapped addresses with a dotted quad, others with their longest gap cut. -/
def ipv6Chars (b : BitVec 128) : List Char :=
  match mapped? b with
  | some q => "::ffff:".toList ++ ipv4Chars q
  | none =>
    let gs := groups b
    let (start, length) := zeroRun gs
    if 2 ≤ length then
      groupChars (gs.take start) ++ [':', ':'] ++ groupChars (gs.drop (start + length))
    else groupChars gs

/-! ## 3. Either family -/

/-- The characters of an address's text. -/
def chars : Address → List Char
  | v4 q => ipv4Chars q
  | v6 b => ipv6Chars b

/-- The text of an address. -/
def text (a : Address) : String :=
  String.ofList a.chars

instance : ToString Address := ⟨text⟩

end Turnstile.Address
