import TransformRegistry.Audit.Entry
import TransformRegistry.Target.Basic
import TransformRegistry.Vote

/-!
# What a transformer is shown

Each question comes with a ballot: the target, why it is loaded, the pass, what has happened to the
target in this attempt, and whatever the host wants to hand over.
-/

namespace TransformRegistry

inductive Purpose where
  | loading
  | analysis
deriving DecidableEq, Repr, Inhabited

def Purpose.name : Purpose → String
  | .loading => "class_loading"
  | .analysis => "analysis"

/-- Whether a transformer is asked for the first time or after it deferred. -/
inductive Pass where
  | first
  | second
deriving DecidableEq, Repr, Inhabited

def Pass.title : Pass → String
  | .first => "Initial"
  | .second => "Deferred"

/-- What the loader says of a load: its purpose, the name of the trail to keep, an extension. -/
structure LoadContext (E : Type) where
  purpose : Purpose := .loading
  trail? : Option String := none
  extension? : Option E := none

structure Ballot (E : Type) where
  target : Target
  purpose : Purpose
  pass : Pass := .first
  history : List Entry := []
  extension? : Option E := none

namespace Ballot

variable {E : Type}

def ofLoad (target : Target) (load : LoadContext E) (pass : Pass) (history : List Entry) :
    Ballot E :=
  ⟨target, load.purpose, pass, history, load.extension?⟩

def applied (b : Ballot E) : List String := appliedLabels b.history

def alreadyApplied (b : Ballot E) (label : String) : Bool := b.applied.contains label

end Ballot

end TransformRegistry
