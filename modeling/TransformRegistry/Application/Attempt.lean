import TransformRegistry.Session.Transformer

/-!
# Attempts

An attempt takes a unit through a sequence of transformers. Each is asked before it is applied. One
that defers goes to the end of the queue and is asked once more; a second defer counts as a no. The
first transformer that fails ends the attempt.
-/

namespace TransformRegistry

/-- Why there is no transformed unit. -/
inductive TransformError where
  | failed (target : Target) (transformer reason : String)
  | wrongUnit (target : Target) (unit : Kind)
deriving DecidableEq, Repr

namespace TransformError

def target : TransformError → Target
  | .failed target _ _ => target
  | .wrongUnit target _ => target

def message : TransformError → String
  | .failed target transformer reason =>
    "transformer " ++ transformer ++ " failed on " ++ target.text ++ ": " ++ reason
  | .wrongUnit target unit =>
    "cannot transform " ++ target.text ++ " with a " ++ unit.name ++ " unit"

def causes : TransformError → List String
  | .failed _ _ reason => [reason]
  | .wrongUnit .. => []

end TransformError

/-! ## The queue -/

/-- How many more times an entry of the queue can be asked. -/
def Pass.questions : Pass → Nat
  | .first => 2
  | .second => 1

/-- The most questions that a queue can still lead to. -/
def questionsLeft {α : Type} : List (α × Pass) → Nat
  | [] => 0
  | (_, pass) :: rest => pass.questions + questionsLeft rest

theorem questionsLeft_append {α : Type} (a b : List (α × Pass)) :
    questionsLeft (a ++ b) = questionsLeft a + questionsLeft b := by
  induction a with
  | nil => simp [questionsLeft]
  | cons e rest ih => rw [List.cons_append, questionsLeft, questionsLeft, ih, Nat.add_assoc]

theorem questionsLeft_requeue {α : Type} (a : α) (rest : List (α × Pass)) :
    questionsLeft (rest ++ [(a, .second)]) < questionsLeft ((a, .first) :: rest) := by
  rw [questionsLeft_append]
  simp only [questionsLeft, Pass.questions]
  omega

theorem questionsLeft_pop {α : Type} (e : α × Pass) (rest : List (α × Pass)) :
    questionsLeft rest < questionsLeft (e :: rest) := by
  obtain ⟨a, pass⟩ := e
  cases pass <;> simp only [questionsLeft, Pass.questions] <;> omega

/-! ## Asking -/

variable {I H E U : Type}

open SessionM

/-- Asks the transformers in the queue, front to back, and applies those that agree. The answer is
the unit or the failure, with the history of the attempt. -/
def askQueue (target : Target) (load : LoadContext E) (unit : U) (history : List Entry)
    (queue : List (Transformer I H E U × Pass)) :
    SessionM I H (Except TransformError U × List Entry) :=
  match queue with
  | [] => return (.ok unit, history)
  | (t, pass) :: rest => do
    let label ← t.label
    let ballot := Ballot.ofLoad target load pass history
    let vote ← t.vote ballot
    report (.voteCast target label vote pass)
    match vote, pass with
    | .yes, _ =>
      match ← t.transform unit ballot with
      | .ok next => askQueue target load next (history ++ [⟨label, .applied⟩]) rest
      | .error reason =>
        return (.error (.failed target label reason), history ++ [⟨label, .failed⟩])
    | .no, _ => askQueue target load unit (history ++ [⟨label, .declined⟩]) rest
    | .defer, .first =>
      askQueue target load unit (history ++ [⟨label, .deferred⟩]) (rest ++ [(t, .second)])
    | .defer, .second =>
      report (.deferredTwice target label)
      askQueue target load unit (history ++ [⟨label, .deferredTwice⟩]) rest
termination_by questionsLeft queue
decreasing_by
  · exact questionsLeft_pop ..
  · exact questionsLeft_pop ..
  · exact questionsLeft_requeue ..
  · exact questionsLeft_pop ..

/-- Takes a unit through a sequence and keeps the history in the trail of the load. Where there is
nobody to ask, there is no attempt. -/
def attempt (sequence : List (Transformer I H E U)) (unit : U) (target : Target)
    (load : LoadContext E) : SessionM I H (Except TransformError U) := do
  if sequence.isEmpty then return .ok unit
  let (result, history) ← askQueue target load unit [] (sequence.map (·, .first))
  record load.trail? target history
  return result

end TransformRegistry
