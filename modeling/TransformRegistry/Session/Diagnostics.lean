import TransformRegistry.Session.Transformer
import TransformRegistry.Store.Description

/-!
# Describing a snapshot

The labels in a description are those that the transformers give when it is made.
-/

namespace TransformRegistry.Snapshot

variable {I H E : Type} {U : Kind → Type} [DecidableEq I]

def describeTargets (r : Roster I H E U) (k : Kind) :
    List (Target × List I) → SessionM I H (List DescribedTarget)
  | [] => return []
  | (t, sequence) :: rest => do
    let labels ← r.labels k sequence
    return ⟨t, labels⟩ :: (← describeTargets r k rest)

/-- The list of a kind, if the kind has an index. -/
def describeKind (r : Roster I H E U) (s : Snapshot I) (k : Kind) :
    SessionM I H (Option (List DescribedTarget)) :=
  match s.indexes.get k with
  | none => return none
  | some ix => return some (← describeTargets r k ix.sequences.entries)

/-- Everything in a snapshot, with labels for instances. -/
def description (r : Roster I H E U) (s : Snapshot I) : SessionM I H Description := do
  let cls ← s.describeKind r .cls
  let method ← s.describeKind r .method
  let field ← s.describeKind r .field
  return ⟨⟨cls, method, field⟩, ClassName.sort s.owners⟩

end TransformRegistry.Snapshot
