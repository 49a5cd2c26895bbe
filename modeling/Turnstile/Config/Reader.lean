/-
# Reading configurations

A configuration is a TOML document.  Its settings are visited in the order of their keys, and so the
first fault in that order counts; settings of other names are not used.  Sections may be written as
tables or as arrays of their settings.

* `Config.read` reads the text of a document and checks what it says;
* `Config.load` does so for the bytes of a file that may be missing.
-/
import Turnstile.Block.Reader
import Turnstile.Config
import Turnstile.Toml.Document

namespace Turnstile.Config

open Turnstile.Toml (Value)

/-! ## 1. Values -/

/-- A value as an item of a kind that a setting asks for. -/
def expect {α : Type} : Option α → Except ConfigFault α
  | some a => .ok a
  | none => .error .badDocument

/-- A text. -/
def string : Value → Except ConfigFault String
  | .string s => .ok s
  | _ => .error .badDocument

/-- A truth value. -/
def boolean : Value → Except ConfigFault Bool
  | .boolean b => .ok b
  | _ => .error .badDocument

/-- A whole number from zero up to a limit, which it does not reach. -/
def natural (limit : Nat) : Value → Except ConfigFault Nat
  | .integer n => if 0 ≤ n ∧ n < limit then .ok n.toNat else .error .badDocument
  | _ => .error .badDocument

/-- A number of 64 bits. -/
def word (v : Value) : Except ConfigFault UInt64 := do
  return .ofNat (← natural UInt64.size v)

/-- An array of items of one kind. -/
def array {α : Type} (item : Value → Except ConfigFault α) : Value → Except ConfigFault (List α)
  | .array items => items.mapM item
  | _ => .error .badDocument

/-- A setting of no known name, of which only the numbers are checked. -/
def unused (v : Value) : Except ConfigFault Unit :=
  if v.fits then .ok () else .error .badDocument

/-- A record: its fields are set one after the other. -/
def record {α : Type} (names : List String) (set : α → String × Value → Except ConfigFault α)
    (blank : α) (v : Value) : Except ConfigFault α := do
  (← expect (v.fields? names)).foldlM set blank

/-! ## 2. Sections -/

/-- A rule of which some fields may still be missing. -/
structure PartialRule where
  id : Option RuleId := none
  text : Option String := none

/-- Sets a field of a rule. -/
def setRule (r : PartialRule) : String × Value → Except ConfigFault PartialRule
  | ("id", v) => do return { r with id := some (.ofNat (← natural UInt32.size v)) }
  | ("rule", v) => do return { r with text := some (← string v) }
  | (_, v) => do
    unused v
    return r

/-- A rule, which has to have an identifier and a text. -/
def rule (v : Value) : Except ConfigFault RuleSource := do
  let r ← record ["id", "rule"] setRule {} v
  return ⟨← expect r.id, ← expect r.text⟩

/-- Sets a setting of the hit table. -/
def setHitTable (c : SweepSettings) : String × Value → Except ConfigFault SweepSettings
  | ("idle_timeout_secs", v) => do return { c with idleSeconds := ← word v }
  | ("sweep_interval_secs", v) => do return { c with sweepSeconds := ← word v }
  | (_, v) => do
    unused v
    return c

/-- Sets a setting of the pool. -/
def setPool (c : PoolSettings) : String × Value → Except ConfigFault PoolSettings
  | ("capacity", v) => do return { c with capacity := ← word v }
  | ("acquire_timeout_ms", v) => do return { c with patienceMillis := some (← word v) }
  | (_, v) => do
    unused v
    return c

/-- Sets a setting of the log. -/
def setLog (c : LogSettings) : String × Value → Except ConfigFault LogSettings
  | ("level", v) => do return { c with level := ← string v }
  | ("show_target", v) => do return { c with showTarget := ← boolean v }
  | (_, v) => do
    unused v
    return c

/-- A block of an access list. -/
def block (list entry : String) : Except ConfigFault Block :=
  (Block.read entry).mapError (.badListEntry list entry)

/-- Access lists by name.  All entries have to be texts before any of them is read. -/
def accessLists : Value → Except ConfigFault AccessLists
  | .table entries => do
    let named ← entries.mapM fun (name, v) => return (name, ← array string v)
    named.foldlM (fun (ls : AccessLists) (name, texts) =>
      return ls.insert name (← texts.mapM (block name))) .empty
  | _ => .error .badDocument

/-! ## 3. Documents -/

/-- Sets one of all settings. -/
def set (c : Config) : String × Value → Except ConfigFault Config
  | ("default_action", v) => do return { c with defaultAction := ← string v }
  | ("rules", v) => do return { c with rules := ← array rule v }
  | ("access_lists", v) => do return { c with lists := ← accessLists v }
  | ("hit_table", v) => do
    let names := ["idle_timeout_secs", "sweep_interval_secs"]
    return { c with hitTable := ← record names setHitTable {} v }
  | ("parser_pool", v) => do
    return { c with pool := ← record ["capacity", "acquire_timeout_ms"] setPool {} v }
  | ("logging", v) => do return { c with log := ← record ["level", "show_target"] setLog {} v }
  | (_, v) => do
    unused v
    return c

/-- The configuration that a document describes. -/
def read (text : String) : Except ConfigFault Config := do
  let entries ← expect (Toml.read? text)
  let c ← entries.foldlM set {}
  check c
  return c

/-- The configuration in a file, given its bytes if it is there. -/
def load : Option ByteArray → Except ConfigFault Config
  | none => .error .missingFile
  | some bytes => match String.fromUTF8? bytes with
    | some text => read text
    | none => .error .notText

end Turnstile.Config
