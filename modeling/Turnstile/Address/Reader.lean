/-
# Reading addresses

Address text is read leniently:

* IPv4 (`ipv4?`) as one to four decimal pieces, the last of which fills all the bytes that
  are left: `10.1` is `10.0.0.1`, and `16909060` is `1.2.3.4`;
* IPv6 (`ipv6?`) as eight groups, or fewer around one `::`, where the last group may be
  written as a dotted quad;
* `address?` trims, and takes any text with a colon for IPv6.

The pieces of an IPv4 address are put into an array of four, and from there into a word of 32 bits;
the groups of an IPv6 address into an array of eight, and their bytes into one of sixteen, by copies
that must fit.  `ipv4Bytes` and `ipv6Bytes` are stopped where a place is out of bounds, a copy does
not fit or a bit is lost.  No text does that.
-/
import Turnstile.Address
import Turnstile.Slice
import Turnstile.Text.Blank
import Turnstile.Text.Number

namespace Turnstile.Address

open Turnstile.Text

/-! ## 1. IPv4 -/

/-- One piece of a dotted text: one to ten decimal digits. -/
def piece? (cs : List Char) : Option Nat :=
  if cs.length ≤ 10 then decimal? cs else none

/-- A piece as a word of 64 bits. -/
def segment? (cs : List Char) : Option (BitVec 64) :=
  (piece? cs).bind fun n => if n < UInt64.size then some (.ofNat 64 n) else none

/-- The places of an array, of which `count` are filled already, and how many are filled in the end:
one for each piece, and no piece for which there is no place. -/
def storeSegments (segments : List (BitVec 64)) (count : Nat) :
    List (List Char) → Reading (List (BitVec 64) × Nat)
  | [] => pure (segments, count)
  | part :: parts =>
    if count = segments.length then failure else do
      let segment ← liftOption (segment? part)
      storeSegments (← Slice.set segments count segment) (count + 1) parts

/-- Puts bytes into a word, from the place of the `i`-th one. -/
def assemble (i : Nat) (value : BitVec 32) : List (BitVec 64) → Reading (BitVec 32)
  | [] => pure value
  | segment :: segments => do
    let byte ← Slice.narrow 32 segment
    let moved ← Slice.shiftUp byte (← Slice.minus 24 (8 * i))
    assemble (i + 1) (value ||| moved) segments

/-- One word from the segments in front, which are a byte each, and the last one, which fills all
the bytes that remain. -/
def joinSegments (head tail : List (BitVec 64)) : Reading (BitVec 32) :=
  if head.any (255 < ·) then failure else do
    let last ← Slice.get tail 0
    let limit ← Slice.shiftUp (1 : BitVec 64) (8 * (← Slice.minus 4 head.length))
    if limit ≤ last then failure else do
      let value ← assemble 0 0 head
      return value ||| (← Slice.narrow 32 last)

/-- The four bytes of an IPv4 address. -/
def ipv4Bytes (cs : List Char) : Reading (List Nat) :=
  if cs.isEmpty then failure else do
    let (segments, count) ← storeSegments (List.replicate 4 0) 0 (cs.splitOn '.')
    let (filled, _) ← Slice.split segments count
    let (head, tail) ← Slice.split filled (← Slice.minus count 1)
    return bytesOf 4 (← joinSegments head tail).toNat

/-- The number that bytes in network order stand for. -/
def ofBytes (bytes : List Nat) : Nat :=
  bytes.foldl (fun n b => n * 256 + b) 0

/-- An IPv4 address. -/
def ipv4? (cs : List Char) : Option (BitVec 32) :=
  match (ipv4Bytes cs).run with
  | .ok bytes => bytes.map fun bytes => BitVec.ofNat 32 (ofBytes bytes)
  | .error _ => none

/-! ## 2. IPv6 -/

/-- One group: one to four hexadecimal digits. -/
def group? (cs : List Char) : Option Nat :=
  if cs.length ≤ 4 then hex? cs else none

/-- The places of a dotted quad, of which `count` are filled already: four pieces below 256, and
not one more. -/
def storePieces (quad : List Nat) (count : Nat) : List (List Char) → Reading (List Nat)
  | [] => if count = 4 then pure quad else failure
  | part :: parts =>
    if count = 4 then failure else do
      let piece ← liftOption (piece? part)
      if piece < 256 then storePieces (← Slice.set quad count piece) (count + 1) parts
      else failure

/-- A dotted quad in place of the last two groups. -/
def readQuad (cs : List Char) : Reading (List Nat) := do
  let quad ← storePieces (List.replicate 4 0) 0 (cs.splitOn '.')
  return [(← Slice.get quad 0) * 256 + (← Slice.get quad 1),
    (← Slice.get quad 2) * 256 + (← Slice.get quad 3)]

/-- The groups that one part of a colon-separated run stands for.  Only the last part may be a
dotted quad, and only where the run ends the address. -/
def readPart (final last : Bool) (part : List Char) : Reading (List Nat) :=
  if last && final && part.contains '.' then readQuad part
  else liftOption ((group? part).map ([·]))

/-- Groups and those of the parts behind them, eight at most. -/
def collect (final : Bool) (groups : List Nat) : List (List Char) → Reading (List Nat)
  | [] => pure groups
  | part :: parts => do
    let more ← readPart final parts.isEmpty part
    if 8 < (groups ++ more).length then failure else collect final (groups ++ more) parts

/-- The groups of a run; the empty text is the empty run. -/
def readRun (final : Bool) (cs : List Char) : Reading (List Nat) :=
  if cs.isEmpty then pure [] else collect final [] (cs.splitOn ':')

/-- The eight groups of an address without a gap. -/
def readWhole (cs : List Char) : Reading (List Nat) := do
  let groups ← readRun true cs
  if groups.length = 8 then Slice.fill (List.replicate 8 0) 0 8 groups else failure

/-- The eight groups of an address with a gap at an offset.  The gap stands for at least one group
of zeros, and there is no other one behind it. -/
def readGapped (offset : Nat) (cs : List Char) : Reading (List Nat) := do
  let (head, _) ← Slice.cut offset cs
  let (_, tail) ← Slice.cut (offset + 2) cs
  if (Slice.find? "::".toList tail).isSome then failure else do
    let front ← readRun false head
    let back ← readRun true tail
    if 7 < front.length + back.length then failure else do
      let groups ← Slice.fill (List.replicate 8 0) 0 front.length front
      Slice.fill groups (← Slice.minus 8 back.length) 8 back

/-- The eight groups of an address, which is cut at the first gap. -/
def readGroups (cs : List Char) : Reading (List Nat) :=
  match Slice.find? "::".toList cs with
  | none => readWhole cs
  | some offset => readGapped offset cs

/-- Groups in network order, from the place of the `i`-th one. -/
def spread (i : Nat) (bytes : List Nat) : List Nat → Reading (List Nat)
  | [] => pure bytes
  | g :: gs => do
    spread (i + 1) (← Slice.fill bytes (2 * i) (2 * i + 2) [g / 256, g % 256]) gs

/-- The sixteen bytes of an IPv6 address. -/
def ipv6Bytes (cs : List Char) : Reading (List Nat) :=
  if cs.isEmpty then failure else do
    spread 0 (List.replicate 16 0) (← readGroups cs)

/-- An IPv6 address. -/
def ipv6? (cs : List Char) : Option (BitVec 128) :=
  match (ipv6Bytes cs).run with
  | .ok bytes => bytes.map fun bytes => BitVec.ofNat 128 (ofBytes bytes)
  | .error _ => none

/-! ## 3. Either family -/

/-- An address of either family with blanks around it. -/
def address? (cs : List Char) : Option Address :=
  let cs := trim cs
  if cs.contains ':' then (ipv6? cs).map .v6 else (ipv4? cs).map .v4

/-- An address of either family with blanks around it. -/
def ofString? (s : String) : Option Address :=
  address? s.toList

end Turnstile.Address
