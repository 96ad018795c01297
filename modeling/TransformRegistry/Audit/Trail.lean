import TransformRegistry.Audit.Entry
import TransformRegistry.Keyed
import TransformRegistry.Target.Text

/-!
# Audit trails

A trail keeps, for each target, what happened to it, attempt after attempt. A target with nothing
to tell is not in the trail.
-/

namespace TransformRegistry

structure Trail where
  log : Keyed Target Entry
deriving DecidableEq

namespace Trail

def empty : Trail := ⟨.empty⟩

instance : Inhabited Trail := ⟨empty⟩

/-- Puts the history of an attempt at the end of what is known of its target. -/
def record (trail : Trail) (t : Target) (history : List Entry) : Trail :=
  if history.isEmpty then trail else ⟨trail.log.append t history⟩

def history (trail : Trail) (t : Target) : List Entry := trail.log.get t

def applied (trail : Trail) (t : Target) : List String := appliedLabels (trail.history t)

/-- What is known of a target, and the trail without it. -/
def take (trail : Trail) (t : Target) : List Entry × Trail :=
  (trail.history t, ⟨trail.log.remove t⟩)

def targets (trail : Trail) : List Target := Target.sort trail.log.keys

def size (trail : Trail) : Nat := trail.log.keys.length

def isEmpty (trail : Trail) : Bool := trail.log.keys.isEmpty

def summary (trail : Trail) (t : Target) : String :=
  if trail.log.contains t then
    t.text ++ ": "
      ++ ", ".intercalate ((trail.history t).map fun e => e.transformer ++ "=" ++ e.outcome.name)
  else t.text ++ ": <none>"

@[simp] theorem history_empty (t : Target) : empty.history t = [] := rfl

theorem history_record_self (trail : Trail) (t : Target) (history : List Entry) :
    (trail.record t history).history t = trail.history t ++ history := by
  unfold record
  split
  · next h => simp [List.isEmpty_iff.1 h]
  · exact Keyed.get_append_self ..

theorem history_record_of_ne (trail : Trail) {t u : Target} (history : List Entry)
    (h : u ≠ t) : (trail.record t history).history u = trail.history u := by
  unfold record
  split
  · rfl
  · exact Keyed.get_append_of_ne _ _ h

end Trail

end TransformRegistry
