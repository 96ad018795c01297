import TransformRegistry.Keyed
import TransformRegistry.Settings
import TransformRegistry.Store.Refusal

/-!
# The transformers of one kind, by target

Each target has a sequence of instances, in the order in which they were registered for it. An
instance stands in a sequence once. Two instances are the same only if they are the same value of
the instance type; what they are called plays no part.
-/

namespace TransformRegistry

structure TargetIndex (I : Type) where
  kind : Kind
  sequences : Keyed Target I
deriving DecidableEq

namespace TargetIndex

variable {I : Type} [DecidableEq I]

def empty (kind : Kind) : TargetIndex I := ⟨kind, .empty⟩

/-- The registered targets, in the order of their first registration. -/
def targets (ix : TargetIndex I) : List Target := ix.sequences.keys

def sequence (ix : TargetIndex I) (t : Target) : List I := ix.sequences.get t

def contains (ix : TargetIndex I) (t : Target) : Bool := ix.sequences.contains t

def size (ix : TargetIndex I) : Nat := ix.targets.length

def isEmpty (ix : TargetIndex I) : Bool := ix.targets.isEmpty

/-- Puts an instance at the end of the sequence of a target. What happens to a repeat is for the
policy to say; the index stays as it is in either case. -/
def insert (ix : TargetIndex I) (policy : RepeatPolicy) (t : Target) (i : I) :
    Except Refusal (Placement × TargetIndex I) :=
  if t.kind ≠ ix.kind then .error (.wrongKind ix.kind t)
  else if i ∈ ix.sequence t then
    match policy with
    | .reject => .error (.alreadyRegistered t)
    | .ignore => .ok (.alreadyThere, ix)
  else .ok (.appended, { ix with sequences := ix.sequences.append t [i] })

end TargetIndex

end TransformRegistry
