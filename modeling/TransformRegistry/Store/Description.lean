import TransformRegistry.Store.Snapshot

/-!
# Descriptions

A description is what a snapshot looks like from outside: for each kind its targets and, in order,
the labels registered for them, and all owners in order.
-/

namespace TransformRegistry

structure DescribedTarget where
  target : Target
  transformers : List String
deriving DecidableEq, Repr

/-- A kind without targets has no list. -/
structure Description where
  lists : PerKind (Option (List DescribedTarget))
  owners : List ClassName
deriving DecidableEq, Repr

def DescribedTarget.toJson (d : DescribedTarget) : Json :=
  .ofFields [("target", d.target.toJson), ("transformers", .ofTexts d.transformers)]

namespace Description

/-- The field of a kind, if the kind has a list. -/
def listField (d : Description) (k : Kind) : Option (String × Json) :=
  (d.lists.get k).map fun entries => (k.name, .arr (entries.map DescribedTarget.toJson))

def toJson (d : Description) : Json :=
  .ofFields [("lists", .ofFields (Kind.all.filterMap d.listField)),
    ("owners", .ofTexts (d.owners.map (·.text)))]

end Description

def ClassName.sort (names : List ClassName) : List ClassName :=
  names.mergeSort fun a b => (compare a b).isLE

end TransformRegistry
