import TransformRegistry.Json.Reader

/-!
# Votes

A transformer is asked before it is applied. It may apply, decline, or put the question off until
the others have answered.
-/

namespace TransformRegistry

inductive Vote where
  | yes
  | no
  | defer
deriving DecidableEq, Repr, Inhabited

namespace Vote

def all : List Vote := [.yes, .no, .defer]

def name : Vote → String
  | .yes => "yes"
  | .no => "no"
  | .defer => "defer"

def ofName? (s : String) : Option Vote := all.find? (·.name == s)

/-- A plain answer never defers. -/
def ofBool (apply : Bool) : Vote := if apply then .yes else .no

def toJson (v : Vote) : Json := .ofText v.name

def ofJson? : Json → Option Vote := Json.choice? ofName?

@[simp] theorem ofName?_name (v : Vote) : ofName? v.name = some v := by cases v <;> decide

end Vote

end TransformRegistry
