import TransformRegistry.Application.Attempt
import TransformRegistry.Proofs.Calls

/-!
# An attempt in two rounds

The queue of an attempt mixes first and second questions. What it comes to is simpler: every
transformer is asked once, in order, and then those that deferred are asked once more, in the order
in which they deferred.
-/

namespace TransformRegistry

variable {I H E U : Type}

open SessionM

/-! ## One question -/

inductive Reply (U : Type) where
  | went (unit : U) (entry : Entry)
  | deferred (label : String)
  | failed (error : TransformError) (entry : Entry)

/-- Asks a transformer once and applies it if it agrees. -/
def ask (target : Target) (load : LoadContext E) (pass : Pass) (unit : U) (history : List Entry)
    (t : Transformer I H E U) : SessionM I H (Reply U) := do
  let label ← t.label
  let ballot := Ballot.ofLoad target load pass history
  let vote ← t.vote ballot
  report (.voteCast target label vote pass)
  match vote with
  | .yes =>
    match ← t.transform unit ballot with
    | .ok next => return .went next ⟨label, .applied⟩
    | .error reason => return .failed (.failed target label reason) ⟨label, .failed⟩
  | .no => return .went unit ⟨label, .declined⟩
  | .defer => return .deferred label

/-! ## The two rounds -/

/-- Asks every transformer once. The answer has the transformers that deferred, in order. -/
def firstRound (target : Target) (load : LoadContext E) (unit : U) (history : List Entry) :
    List (Transformer I H E U) →
      SessionM I H (Except TransformError (U × List (Transformer I H E U)) × List Entry)
  | [] => return (.ok (unit, []), history)
  | t :: rest => do
    match ← ask target load .first unit history t with
    | .went next entry => firstRound target load next (history ++ [entry]) rest
    | .failed error entry => return (.error error, history ++ [entry])
    | .deferred label =>
      match ← firstRound target load unit (history ++ [⟨label, .deferred⟩]) rest with
      | (.ok (unit, deferred), history) => return (.ok (unit, t :: deferred), history)
      | (.error error, history) => return (.error error, history)

/-- Asks those that deferred. A second defer is reported, and counts as a no. -/
def secondRound (target : Target) (load : LoadContext E) (unit : U) (history : List Entry) :
    List (Transformer I H E U) → SessionM I H (Except TransformError U × List Entry)
  | [] => return (.ok unit, history)
  | t :: rest => do
    match ← ask target load .second unit history t with
    | .went next entry => secondRound target load next (history ++ [entry]) rest
    | .failed error entry => return (.error error, history ++ [entry])
    | .deferred label =>
      report (.deferredTwice target label)
      secondRound target load unit (history ++ [⟨label, .deferredTwice⟩]) rest

def askInRounds (target : Target) (load : LoadContext E) (unit : U)
    (sequence : List (Transformer I H E U)) :
    SessionM I H (Except TransformError U × List Entry) := do
  match ← firstRound target load unit [] sequence with
  | (.error error, history) => return (.error error, history)
  | (.ok (unit, deferred), history) => secondRound target load unit history deferred

def attemptInRounds (sequence : List (Transformer I H E U)) (unit : U) (target : Target)
    (load : LoadContext E) : SessionM I H (Except TransformError U) := do
  if sequence.isEmpty then return .ok unit
  let (result, history) ← askInRounds target load unit sequence
  record load.trail? target history
  return result

/-! ## The queue, one question at a time -/

theorem askQueue_cons (target : Target) (load : LoadContext E) (unit : U) (history : List Entry)
    (t : Transformer I H E U) (pass : Pass) (rest : List (Transformer I H E U × Pass)) :
    askQueue target load unit history ((t, pass) :: rest) = (do
      match ← ask target load pass unit history t with
      | .went next entry => askQueue target load next (history ++ [entry]) rest
      | .failed error entry => return (.error error, history ++ [entry])
      | .deferred label =>
        match pass with
        | .first =>
          askQueue target load unit (history ++ [⟨label, .deferred⟩]) (rest ++ [(t, .second)])
        | .second =>
          report (.deferredTwice target label)
          askQueue target load unit (history ++ [⟨label, .deferredTwice⟩]) rest) := by
  rw [askQueue, ask]
  simp only [bind_assoc]
  refine bind_congr fun label => ?_
  refine bind_congr fun vote => ?_
  refine bind_congr fun _ => ?_
  cases vote with
  | yes =>
    simp only [bind_assoc]
    refine bind_congr fun result => ?_
    cases result <;> simp only [pure_bind]
  | no => rw [pure_bind]
  | defer => cases pass <;> rw [pure_bind]

/-- The queue is asked, from one session to the next, until there is an answer and a history. -/
inductive Inquiry (target : Target) (load : LoadContext E) : U → List Entry →
    List (Transformer I H E U × Pass) → Session I H → Except TransformError U → List Entry →
    Session I H → Prop
  | done {unit : U} {history : List Entry} {s : Session I H} :
      Inquiry target load unit history [] s (.ok unit) history s
  | went {x : Transformer I H E U} {pass : Pass} {rest : List (Transformer I H E U × Pass)}
      {unit next : U} {history told : List Entry} {entry : Entry} {s t u : Session I H}
      {result : Except TransformError U} :
      ask target load pass unit history x s = .ok (.went next entry) u →
      Inquiry target load next (history ++ [entry]) rest u result told t →
      Inquiry target load unit history ((x, pass) :: rest) s result told t
  | failed {x : Transformer I H E U} {pass : Pass} {rest : List (Transformer I H E U × Pass)}
      {unit : U} {history : List Entry} {entry : Entry} {s t : Session I H} {e : TransformError} :
      ask target load pass unit history x s = .ok (.failed e entry) t →
      Inquiry target load unit history ((x, pass) :: rest) s (.error e) (history ++ [entry]) t
  | deferred {x : Transformer I H E U} {rest : List (Transformer I H E U × Pass)}
      {unit : U} {history told : List Entry} {label : String} {s t u : Session I H}
      {result : Except TransformError U} :
      ask target load .first unit history x s = .ok (.deferred label) u →
      Inquiry target load unit (history ++ [⟨label, .deferred⟩]) (rest ++ [(x, .second)]) u result
        told t →
      Inquiry target load unit history ((x, .first) :: rest) s result told t
  | deferredTwice {x : Transformer I H E U} {rest : List (Transformer I H E U × Pass)}
      {unit : U} {history told : List Entry} {label : String} {s t u : Session I H}
      {result : Except TransformError U} :
      ask target load .second unit history x s = .ok (.deferred label) u →
      Inquiry target load unit (history ++ [⟨label, .deferredTwice⟩]) rest
        ((report (.deferredTwice target label)).after u) result told t →
      Inquiry target load unit history ((x, .second) :: rest) s result told t

theorem inquiry_of_askQueue {target : Target} {load : LoadContext E} {unit : U}
    {history told : List Entry} {queue : List (Transformer I H E U × Pass)} {s t : Session I H}
    {result : Except TransformError U}
    (ran : askQueue target load unit history queue s = .ok (result, told) t) :
    Inquiry target load unit history queue s result told t := by
  induction left : questionsLeft queue using Nat.strongRecOn
    generalizing queue unit history s with
  | ind n ih =>
    subst left
    rcases queue with _ | ⟨⟨x, pass⟩, rest⟩
    · rw [askQueue] at ran
      cases ran
      exact .done
    have popped := questionsLeft_pop (x, pass) rest
    rw [askQueue_cons] at ran
    obtain ⟨reply, u, asked, ran⟩ := bind_eq_ok ran
    cases reply with
    | went next entry => exact .went asked (ih _ popped ran rfl)
    | failed error entry =>
      cases ran
      exact .failed asked
    | deferred label =>
      cases pass with
      | first => exact .deferred asked (ih _ (questionsLeft_requeue x rest) ran rfl)
      | second =>
        obtain ⟨_, v, reported, ran⟩ := bind_eq_ok ran
        cases reported
        exact .deferredTwice asked (ih _ popped ran rfl)

/-! ## The queue in rounds -/

theorem askQueue_deferred (target : Target) (load : LoadContext E) (unit : U)
    (history : List Entry) (deferred : List (Transformer I H E U)) :
    askQueue target load unit history (deferred.map (·, .second)) =
      secondRound target load unit history deferred := by
  induction deferred generalizing unit history with
  | nil => rw [List.map_nil, askQueue, secondRound]
  | cons t rest ih =>
    rw [List.map_cons, askQueue_cons, secondRound]
    refine bind_congr fun reply => ?_
    cases reply with
    | went next entry => exact ih next _
    | failed error entry => rfl
    | deferred label => exact bind_congr fun _ => ih unit _

/-- The queue is always what is left of the first round, then those that have deferred so far. -/
theorem askQueue_mixed (target : Target) (load : LoadContext E) (unit : U) (history : List Entry)
    (sequence deferred : List (Transformer I H E U)) :
    askQueue target load unit history (sequence.map (·, .first) ++ deferred.map (·, .second)) =
      (do
        match ← firstRound target load unit history sequence with
        | (.error error, history) => return (.error error, history)
        | (.ok (unit, more), history) =>
          secondRound target load unit history (deferred ++ more)) := by
  induction sequence generalizing unit history deferred with
  | nil =>
    rw [List.map_nil, List.nil_append, askQueue_deferred, firstRound, pure_bind]
    simp only [List.append_nil]
  | cons t rest ih =>
    rw [List.map_cons, List.cons_append, askQueue_cons, firstRound, bind_assoc]
    refine bind_congr fun reply => ?_
    cases reply with
    | went next entry => exact ih next _ deferred
    | failed error entry => rw [pure_bind]
    | deferred label =>
      -- It goes behind those that have deferred before it.
      have queued : rest.map (·, Pass.first) ++ deferred.map (·, Pass.second) ++ [(t, .second)] =
          rest.map (·, Pass.first) ++ (deferred ++ [t]).map (·, Pass.second) := by
        rw [List.map_append, List.append_assoc]
        rfl
      simp only
      rw [queued, ih, bind_assoc]
      refine bind_congr fun ⟨result, history⟩ => ?_
      cases result with
      | error error => rw [pure_bind]
      | ok found =>
        rw [pure_bind]
        simp only [List.append_assoc, List.cons_append, List.nil_append]

theorem askQueue_eq_askInRounds (target : Target) (load : LoadContext E) (unit : U)
    (sequence : List (Transformer I H E U)) :
    askQueue target load unit [] (sequence.map (·, .first)) =
      askInRounds target load unit sequence := by
  have mixed := askQueue_mixed target load unit [] sequence []
  rw [List.map_nil, List.append_nil] at mixed
  rw [mixed, askInRounds]
  simp only [List.nil_append]

theorem attempt_eq_attemptInRounds (sequence : List (Transformer I H E U)) (unit : U)
    (target : Target) (load : LoadContext E) :
    attempt sequence unit target load = attemptInRounds sequence unit target load := by
  rw [attempt, attemptInRounds, askQueue_eq_askInRounds]

/-- An attempt, and what it records, is what it comes to in two rounds. Both do the same in every
session, so they call the same transformers in the same order. -/
theorem attempt_in_two_rounds (sequence : List (Transformer I H E U)) (unit : U)
    (target : Target) (load : LoadContext E) :
    askQueue target load unit [] (sequence.map (·, .first)) =
        askInRounds target load unit sequence ∧
      attempt sequence unit target load = attemptInRounds sequence unit target load ∧
      ∀ s, (attempt (writingPlaces sequence) unit target load).noted s =
        (attemptInRounds (writingPlaces sequence) unit target load).noted s := by
  refine ⟨askQueue_eq_askInRounds .., attempt_eq_attemptInRounds .., fun s => ?_⟩
  rw [attempt_eq_attemptInRounds]

end TransformRegistry
