import Mathlib.Data.List.DropRight
import TransformRegistry.Audit.Trail
import TransformRegistry.Proofs.TargetOrder

/-!
# What a trail tells

Histories are written into a trail, what it tells of a target is taken out, the trail is cleared.
After any of this, a trail tells of a target what was written for it since it was last taken out or
cleared. No target is kept with nothing to tell, so the other views of a trail agree with that.
-/

namespace TransformRegistry

/-! ## Steps -/

/-- What can happen to a trail. -/
inductive TrailStep where
  | record (t : Target) (history : List Entry)
  | take (t : Target)
  | clear

namespace TrailStep

def run (trail : Trail) : TrailStep → Trail
  | .record t history => trail.record t history
  | .take t => (trail.take t).2
  | .clear => .empty

/-- The trail after steps, one after another. -/
def runAll (steps : List TrailStep) (trail : Trail) : Trail := steps.foldl run trail

def writtenFor (t : Target) : TrailStep → List Entry
  | .record u history => if u = t then history else []
  | _ => []

/-- Whether nothing is told of the target after the step. -/
def forgets (t : Target) : TrailStep → Bool
  | .record .. => false
  | .take u => u = t
  | .clear => true

/-- The histories written for a target since it was last taken out or cleared, in order. -/
def toldOf (t : Target) (steps : List TrailStep) : List Entry :=
  (steps.rtakeWhile fun step => !step.forgets t).flatMap (writtenFor t)

theorem runAll_concat (steps : List TrailStep) (step : TrailStep) (trail : Trail) :
    runAll (steps ++ [step]) trail = run (runAll steps trail) step := by
  simp [runAll]

theorem toldOf_concat (t : Target) (steps : List TrailStep) (step : TrailStep) :
    toldOf t (steps ++ [step]) =
      if step.forgets t then [] else toldOf t steps ++ step.writtenFor t := by
  unfold toldOf
  rw [List.rtakeWhile_concat]
  by_cases h : step.forgets t
  · simp [h]
  · simp [h]

end TrailStep

/-! ## One step -/

namespace Trail

theorem history_take_self (trail : Trail) (t : Target) : (trail.take t).2.history t = [] :=
  Keyed.get_remove_self ..

theorem history_take_of_ne (trail : Trail) {t u : Target} (h : u ≠ t) :
    (trail.take t).2.history u = trail.history u :=
  Keyed.get_remove_of_ne _ h

theorem history_run (trail : Trail) (step : TrailStep) (t : Target) :
    (TrailStep.run trail step).history t =
      if step.forgets t then [] else trail.history t ++ step.writtenFor t := by
  cases step with
  | record u history =>
    by_cases h : u = t
    · subst h
      simp [TrailStep.run, TrailStep.forgets, TrailStep.writtenFor, history_record_self]
    · simp [TrailStep.run, TrailStep.forgets, TrailStep.writtenFor, h,
        history_record_of_ne _ _ (Ne.symm h)]
  | take u =>
    by_cases h : u = t
    · subst h
      simp [TrailStep.run, TrailStep.forgets, history_take_self]
    · simp [TrailStep.run, TrailStep.forgets, TrailStep.writtenFor, h,
        history_take_of_ne _ (Ne.symm h)]
  | clear => rfl

theorem history_runAll (steps : List TrailStep) (t : Target) :
    (TrailStep.runAll steps .empty).history t = TrailStep.toldOf t steps := by
  induction steps using List.reverseRecOn with
  | nil => rfl
  | append_singleton steps step ih =>
    rw [TrailStep.runAll_concat, history_run, TrailStep.toldOf_concat, ih]

/-! ## No target with nothing to tell -/

/-- A target stands in the trail once, and only with something to tell. -/
structure Tidy (trail : Trail) : Prop where
  once : trail.log.keys.Nodup
  filled : ∀ t ∈ trail.log.keys, trail.history t ≠ []

theorem tidy_empty : empty.Tidy where
  once := List.nodup_nil
  filled _ ht := nomatch ht

namespace Tidy

variable {trail : Trail}

theorem record (hs : trail.Tidy) (t : Target) (history : List Entry) :
    (trail.record t history).Tidy := by
  by_cases nothing : history = []
  · simpa [Trail.record, nothing] using hs
  have keys : (trail.record t history).log.keys =
      if t ∈ trail.log.keys then trail.log.keys else trail.log.keys ++ [t] := by
    rw [Trail.record, if_neg (by simpa using nothing)]
    exact Keyed.keys_append ..
  constructor
  · rw [keys]
    split
    · exact hs.once
    · next absent =>
      rw [← List.concat_eq_append]
      exact List.Nodup.concat absent hs.once
  · intro u hu
    by_cases same : u = t
    · subst same
      rw [history_record_self]
      exact List.append_ne_nil_of_right_ne_nil _ nothing
    · rw [history_record_of_ne _ _ same]
      apply hs.filled u
      rw [keys] at hu
      split at hu
      · exact hu
      · exact (List.mem_append.1 hu).resolve_right (by simpa using same)

theorem take (hs : trail.Tidy) (t : Target) : (trail.take t).2.Tidy := by
  have keys : (trail.take t).2.log.keys = trail.log.keys.filter (· ≠ t) := Keyed.keys_remove ..
  constructor
  · rw [keys]
    exact hs.once.filter _
  · intro u hu
    rw [keys, List.mem_filter] at hu
    obtain ⟨old, other⟩ := hu
    rw [history_take_of_ne _ (by simpa using other)]
    exact hs.filled u old

theorem run (hs : trail.Tidy) (step : TrailStep) : (TrailStep.run trail step).Tidy := by
  cases step with
  | record t history => exact hs.record t history
  | take t => exact hs.take t
  | clear => exact tidy_empty

theorem mem_keys_iff (hs : trail.Tidy) {t : Target} :
    t ∈ trail.log.keys ↔ trail.history t ≠ [] := by
  constructor
  · exact hs.filled t
  · intro told
    by_contra absent
    exact told (Keyed.get_of_not_mem_keys absent)

theorem mem_targets_iff (hs : trail.Tidy) {t : Target} :
    t ∈ trail.targets ↔ trail.history t ≠ [] := by
  rw [targets, Target.mem_sort, hs.mem_keys_iff]

end Tidy

theorem tidy_runAll (steps : List TrailStep) : (TrailStep.runAll steps .empty).Tidy := by
  induction steps using List.reverseRecOn with
  | nil => exact tidy_empty
  | append_singleton steps step ih =>
    rw [TrailStep.runAll_concat]
    exact ih.run step

/-! ## The views -/

theorem size_eq (trail : Trail) : trail.size = trail.targets.length := by
  rw [size, targets, Target.sort, List.length_mergeSort]

theorem isEmpty_iff (trail : Trail) : trail.isEmpty = true ↔ trail.targets = [] := by
  rw [isEmpty, List.isEmpty_iff, ← List.length_eq_zero_iff, ← List.length_eq_zero_iff, ← size_eq]
  rfl

theorem equals_mem_told {history : List Entry} (h : history ≠ []) :
    '=' ∈ (", ".intercalate
      (history.map fun e => e.transformer ++ "=" ++ e.outcome.name)).toList := by
  obtain ⟨e, rest, rfl⟩ := List.exists_cons_of_ne_nil h
  rw [String.toList_intercalate]
  cases rest with
  | nil => simp
  | cons f rest => simp

theorem summary_eq_none_iff {trail : Trail} (hs : trail.Tidy) (t : Target) :
    trail.summary t = t.text ++ ": <none>" ↔ t ∉ trail.targets := by
  rw [hs.mem_targets_iff, ← hs.mem_keys_iff, ← Keyed.contains_iff, summary]
  by_cases known : trail.log.contains t = true
  · have told : trail.history t ≠ [] := hs.filled t ((Keyed.contains_iff _ t).1 known)
    have sign := equals_mem_told told
    simp only [known, if_true, not_true_eq_false, iff_false]
    intro same
    have texts := congrArg String.toList same
    simp only [String.toList_append, List.append_assoc, List.append_cancel_left_eq] at texts
    have rest : (", ".intercalate ((trail.history t).map fun e =>
        e.transformer ++ "=" ++ e.outcome.name)).toList = "<none>".toList := by
      simpa using texts
    rw [rest] at sign
    exact absurd sign (by decide)
  · simp [known]

/-- After any steps on a trail that began empty, it tells of each target what was written for it
since it was last taken out or cleared. The targets stand in order, each once, and are those of
which there is something to tell. -/
theorem runAll_tells (steps : List TrailStep) :
    let trail := TrailStep.runAll steps .empty
    (∀ t, trail.history t = TrailStep.toldOf t steps) ∧
      (∀ t, (trail.take t).1 = TrailStep.toldOf t steps ∧ (trail.take t).2.history t = [] ∧
        ∀ u, u ≠ t → (trail.take t).2.history u = trail.history u) ∧
      (∀ t, trail.applied t =
        ((TrailStep.toldOf t steps).filter (·.outcome == .applied)).map (·.transformer)) ∧
      (trail.targets.Pairwise fun t u => compare t u = .lt) ∧
      (∀ t, t ∈ trail.targets ↔ trail.history t ≠ []) ∧
      trail.size = trail.targets.length ∧
      (trail.isEmpty = true ↔ trail.targets = []) ∧
      ∀ t, trail.summary t = t.text ++ ": <none>" ↔ t ∉ trail.targets := by
  intro trail
  have tidy : trail.Tidy := tidy_runAll steps
  have told : ∀ t, trail.history t = TrailStep.toldOf t steps := history_runAll steps
  refine ⟨told, fun t => ⟨told t, history_take_self .., fun u => history_take_of_ne _⟩, fun t => ?_,
    Target.sort_increasing tidy.once, fun t => tidy.mem_targets_iff, trail.size_eq, trail.isEmpty_iff,
    summary_eq_none_iff tidy⟩
  rw [← told]
  rfl

end Trail

end TransformRegistry
