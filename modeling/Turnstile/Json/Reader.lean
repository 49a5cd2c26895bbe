/-
# Reading JSON

The signs of a text go one by one through a machine that keeps the arrays and objects that are open,
so a text may be nested as deep as it likes.  `read?` gives the value of a text that is one value
and nothing else.
-/
import Turnstile.Json.Token

namespace Turnstile.Json

namespace Reader

/-! ## 1. States -/

/-- Something that is open, with what it holds so far in reverse. -/
inductive Frame where
  | items (before : List Value)
  | members (before : List (Option String × Value))
  /-- A member of the object around it, whose value is awaited. -/
  | member (name : Option String)

/-- What may come next. -/
inductive Stage where
  | value
  /-- A value, or the end of the array that was just opened. -/
  | firstItem
  | name
  /-- A name, or the end of the object that was just opened. -/
  | firstName
  /-- The colon behind a name. -/
  | colon (name : Option String)
  /-- A comma, or the end of what is open. -/
  | more
  /-- Nothing. -/
  | done (v : Value)

/-- The stage, and what is open, innermost first. -/
structure State where
  stage : Stage := .value
  frames : List Frame := []

/-! ## 2. Steps -/

/-- Behind a value. -/
def complete (v : Value) : List Frame → State
  | .items before :: frames => ⟨.more, .items (v :: before) :: frames⟩
  | .member name :: .members before :: frames => ⟨.more, .members ((name, v) :: before) :: frames⟩
  | frames => ⟨.done v, frames⟩

/-- A sign where a value is awaited. -/
def begin (frames : List Frame) : Token → Option State
  | .plain v => some (complete v frames)
  | .text s => some (complete (.string s) frames)
  | .openArray => some ⟨.firstItem, .items [] :: frames⟩
  | .openObject => some ⟨.firstName, .members [] :: frames⟩
  | _ => none

/-- A sign behind an item or a member. -/
def goOn : List Frame → Token → Option State
  | .items before :: frames, .comma => some ⟨.value, .items before :: frames⟩
  | .items before :: frames, .closeArray => some (complete (.array before.reverse) frames)
  | .members before :: frames, .comma => some ⟨.name, .members before :: frames⟩
  | .members before :: frames, .closeObject => some (complete (.object before.reverse) frames)
  | _, _ => none

/-- One sign. -/
def step (st : State) (t : Token) : Option State :=
  match st.stage, t with
  | .value, t => begin st.frames t
  | .firstItem, .closeArray => goOn st.frames t
  | .firstItem, t => begin st.frames t
  | .firstName, .closeObject => goOn st.frames t
  | .firstName, .text name => some { st with stage := .colon name }
  | .name, .text name => some { st with stage := .colon name }
  | .colon name, .colon => some ⟨.value, .member name :: st.frames⟩
  | .more, t => goOn st.frames t
  | _, _ => none

end Reader

/-- The value of a text. -/
def read? (text : String) : Option Value := do
  let st ← (← tokens? text).foldlM Reader.step {}
  match st.stage with
  | .done v => return v
  | _ => none

end Turnstile.Json
