import TransformRegistry.Application.Apply

/-!
# Loading a class

A class is transformed with its members: first its fields, then its methods, then the class itself,
so that a transformer of the class sees its members as they will be. All read one snapshot. The
first error ends the load. A class that no registered target belongs to is not looked into.
-/

namespace TransformRegistry

variable {I H E : Type} {U : Kind → Type} [DecidableEq I]

open SessionM

/-- Transforms members in order, each as the target that `targetOf` gives it. -/
def transformMembers (r : Roster I H E U) (s : Snapshot I) (load : LoadContext E) (k : Kind)
    (targetOf : U k → Target) : List (U k) → SessionM I H (Except TransformError (List (U k)))
  | [] => return .ok []
  | member :: rest => do
    let target := targetOf member
    match ← attempt (s.transformers r k target) member target load with
    | .error e => return .error e
    | .ok member =>
      match ← transformMembers r s load k targetOf rest with
      | .error e => return .error e
      | .ok rest => return .ok (member :: rest)

variable [ClassShape U]

def fieldTarget (owner : ClassName) (field : U .field) : Target :=
  .field owner (ClassShape.fieldName field) (ClassShape.fieldDescriptor field)

def methodTarget (owner : ClassName) (method : U .method) : Target :=
  .method owner (ClassShape.methodName method) (ClassShape.methodDescriptor method)

/-- The class that the loader must define in place of the given one. -/
def loadClass (r : Roster I H E U) (cls : U .cls) (load : LoadContext E) :
    SessionM I H (Except TransformError (U .cls)) := do
  let snapshot := (← getStore).snapshot
  let owner := ClassName.ofText (ClassShape.name cls)
  if !snapshot.needsClass owner.text then return .ok cls
  match ← transformMembers r snapshot load .field (fieldTarget owner) (ClassShape.fields cls) with
  | .error e => return .error e
  | .ok fields =>
    let cls := ClassShape.setFields cls fields
    match ← transformMembers r snapshot load .method (methodTarget owner)
        (ClassShape.methods cls) with
    | .error e => return .error e
    | .ok methods =>
      let cls := ClassShape.setMethods cls methods
      match ← attempt (snapshot.transformers r .cls (.cls owner)) cls (.cls owner) load with
      | .error e => return .error e
      | .ok cls =>
        report (.classComplete owner)
        return .ok cls

end TransformRegistry
