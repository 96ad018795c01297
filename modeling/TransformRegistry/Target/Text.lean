import TransformRegistry.Target.Basic
import TransformRegistry.Text.Quoted

/-!
# How a target is written

As a line of text, as a record that shows every part, and as JSON.
-/

namespace TransformRegistry.Target

/-- The owner, then for a member its name and descriptor. Only a field sets them apart. -/
def text : Target → String
  | .cls owner => owner.text
  | .method owner name descriptor => owner.text ++ "::" ++ name ++ descriptor
  | .field owner name descriptor => owner.text ++ "::" ++ name ++ ":" ++ descriptor

def memberRecord (name descriptor : String) : String :=
  "Some(Member \x7b name: " ++ Text.quoted name ++ ", descriptor: " ++ Text.quoted descriptor
    ++ " \x7d)"

def record (t : Target) : String :=
  let member := match t with
    | .cls _ => "None"
    | .method _ name descriptor => memberRecord name descriptor
    | .field _ name descriptor => memberRecord name descriptor
  "Target \x7b kind: " ++ t.kind.title ++ ", owner: " ++ Text.quoted t.owner.text ++ ", member: "
    ++ member ++ " \x7d"

/-- A class has no fields for a member. -/
def toJson (t : Target) : Json :=
  let member := match t with
    | .cls _ => []
    | .method _ name descriptor => [("name", .ofText name), ("descriptor", .ofText descriptor)]
    | .field _ name descriptor => [("name", .ofText name), ("descriptor", .ofText descriptor)]
  .ofFields ([("kind", t.kind.toJson), ("owner", .ofText t.owner.text)] ++ member)

end TransformRegistry.Target
