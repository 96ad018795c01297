import TransformRegistry.Json.Reader

/-!
# Settings of a store

Settings have a JSON form. It may leave out what is to keep its default.
-/

namespace TransformRegistry

/-- What to do when an instance is registered again for a target it already has. -/
inductive RepeatPolicy where
  | reject
  | ignore
deriving DecidableEq, Repr, Inhabited

namespace RepeatPolicy

def all : List RepeatPolicy := [.reject, .ignore]

def name : RepeatPolicy → String
  | .reject => "reject"
  | .ignore => "ignore"

def ofName? (s : String) : Option RepeatPolicy := all.find? (·.name == s)

def toJson (p : RepeatPolicy) : Json := .ofText p.name

def ofJson? : Json → Option RepeatPolicy := Json.choice? ofName?

@[simp] theorem ofName?_name (p : RepeatPolicy) : ofName? p.name = some p := by
  cases p <;> decide

end RepeatPolicy

structure Settings where
  repeats : RepeatPolicy := .reject
  /-- Whether a store is sealed once all services have been gathered. -/
  sealAfterGather : Bool := true
deriving DecidableEq, Repr, Inhabited

namespace Settings

def repeatsKey : String := "duplicate_policy"

def sealKey : String := "seal_after_gather"

def toJson (s : Settings) : Json :=
  .ofFields [(repeatsKey, s.repeats.toJson), (sealKey, .bool s.sealAfterGather)]

/-! ## Reading -/

/-- The value of a field that may be absent but not repeated. -/
def field? {α : Type} (fields : List (String × Json)) (key : String) (absent : α)
    (read? : Json → Option α) : Option α :=
  match fields.filter (·.1 == key) with
  | [] => some absent
  | [(_, value)] => read? value
  | _ => none

/-- Reads an object or, by position, an array. What is absent keeps its default. Unknown keys are
passed over, but must be texts; an array may not be too long. -/
def ofJson? : Json → Option Settings
  | .arr [] => some {}
  | .arr [policy] => do return { repeats := ← RepeatPolicy.ofJson? policy }
  | .arr [policy, flag] => do
    return { repeats := ← RepeatPolicy.ofJson? policy, sealAfterGather := ← flag.bool? }
  | .obj spelled => do
    let fields ← spelled.mapM fun (key, value) => key.text?.map fun k => (k, value)
    return {
      repeats := ← field? fields repeatsKey ({} : Settings).repeats RepeatPolicy.ofJson?
      sealAfterGather := ← field? fields sealKey ({} : Settings).sealAfterGather Json.bool? }
  | _ => none

end Settings

end TransformRegistry
