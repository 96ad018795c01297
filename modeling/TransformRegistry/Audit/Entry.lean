import TransformRegistry.Json.Basic

/-!
# Entries

An entry says what became of one question put to one transformer. A history is a list of entries,
the oldest first.
-/

namespace TransformRegistry

/-- What came of asking a transformer. -/
inductive Outcome where
  | applied
  | declined
  | deferred
  | deferredTwice
  | failed
deriving DecidableEq, Repr, Inhabited

namespace Outcome

def all : List Outcome := [.applied, .declined, .deferred, .deferredTwice, .failed]

def name : Outcome → String
  | .applied => "applied"
  | .declined => "declined"
  | .deferred => "deferred"
  | .deferredTwice => "deferred_twice"
  | .failed => "failed"

def ofName? (s : String) : Option Outcome := all.find? (·.name == s)

@[simp] theorem ofName?_name (o : Outcome) : ofName? o.name = some o := by cases o <;> decide

end Outcome

structure Entry where
  transformer : String
  outcome : Outcome
deriving DecidableEq, Repr, Inhabited

def Entry.toJson (e : Entry) : Json :=
  .ofFields [("transformer", .ofText e.transformer), ("outcome", .ofText e.outcome.name)]

/-- The labels of the transformers that applied, in order. -/
def appliedLabels (history : List Entry) : List String :=
  (history.filter (·.outcome == .applied)).map (·.transformer)

@[simp] theorem appliedLabels_append (a b : List Entry) :
    appliedLabels (a ++ b) = appliedLabels a ++ appliedLabels b := by
  simp [appliedLabels]

end TransformRegistry
