import TransformRegistry.Application.Attempt
import TransformRegistry.CodeUnit

/-!
# Applying the store to a unit

A unit is transformed as one target, which must be of its kind. The sequence is that of the
snapshot which is current when the call begins, whatever is registered meanwhile.
-/

namespace TransformRegistry

variable {I H E : Type} {U : Kind → Type} [DecidableEq I]

open SessionM

/-- The transformers of one kind that a snapshot has for a target. -/
def Snapshot.transformers (s : Snapshot I) (r : Roster I H E U) (k : Kind) (t : Target) :
    List (Transformer I H E (U k)) :=
  (s.sequence k t).map (r.transformer k)

def transformUnit (r : Roster I H E U) (k : Kind) (unit : U k) (target : Target)
    (load : LoadContext E) : SessionM I H (Except TransformError (U k)) := do
  if target.kind ≠ k then return .error (.wrongUnit target k)
  let snapshot := (← getStore).snapshot
  attempt (snapshot.transformers r k target) unit target load

/-- Transforms a unit of any kind. The unit that comes back is of the same kind. -/
def transformAny (r : Roster I H E U) (u : CodeUnit U) (target : Target) (load : LoadContext E) :
    SessionM I H (Except TransformError (CodeUnit U)) := do
  match ← transformUnit r u.kind u.unit target load with
  | .error e => return .error e
  | .ok unit => return .ok ⟨u.kind, unit⟩

end TransformRegistry
