import TransformRegistry.Session.Basic

/-!
# Transformers

A transformer is known by what it answers. It may answer differently each time, and may do to the
session what it likes while it answers. A roster says, for every instance and every kind as which
it can be taken, what transformer that is.
-/

namespace TransformRegistry

/-- A transformer of code units of type `U`, shown extensions of type `E`. -/
structure Transformer (I H E U : Type) where
  label : SessionM I H String
  targets : SessionM I H (List Target)
  /-- Its answer to the question whether to apply. -/
  vote : Ballot E → SessionM I H Vote
  /-- The unit to use in place of the given one, or the reason why there is none. -/
  transform : U → Ballot E → SessionM I H (Except String U)

/-- The transformers behind the instances. -/
structure Roster (I H E : Type) (U : Kind → Type) where
  transformer : (k : Kind) → I → Transformer I H E (U k)

namespace Roster

variable {I H E : Type} {U : Kind → Type}

def label (r : Roster I H E U) (h : Handle I) : SessionM I H String :=
  (r.transformer h.kind h.id).label

def targets (r : Roster I H E U) (h : Handle I) : SessionM I H (List Target) :=
  (r.transformer h.kind h.id).targets

/-- The labels of instances taken as one kind. -/
def labels (r : Roster I H E U) (k : Kind) : List I → SessionM I H (List String)
  | [] => return []
  | i :: rest => do
    let label ← r.label ⟨k, i⟩
    return label :: (← r.labels k rest)

end Roster

/-- A handle with its kind and label, as it stands in a message. -/
def Handle.record {I : Type} (h : Handle I) (label : String) : String :=
  "AnyTransformer \x7b kind: " ++ h.kind.title ++ ", label: " ++ Text.quoted label ++ " \x7d"

end TransformRegistry
