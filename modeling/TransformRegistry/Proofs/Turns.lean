import TransformRegistry.Proofs.Lockstep

/-!
# The turns of an attempt

An attempt is a matter of turns: each goes to a transformer, in the first or the second pass, and
ends with an entry in the history. Transformers of one label are told apart by their places.
-/

namespace TransformRegistry

variable {I H E U V ν : Type}

open SessionM

/-! ## Turns -/

structure Turn where
  place : Nat
  pass : Pass
  entry : Entry
deriving DecidableEq, Repr

def Turn.outcome (t : Turn) : Outcome := t.entry.outcome

/-- Whether the transformer was applied, with or without success. -/
def Outcome.tried : Outcome → Bool
  | .applied => true
  | .failed => true
  | _ => false

/-- The call, whatever the unit. -/
def Call.shown : Call ν E V → Call ν E Unit
  | .vote who ballot => .vote who ballot
  | .transform who _ ballot => .transform who () ballot

/-- The calls in one turn: the question and, if the answer is yes, the transformation. Both come with
what happened before. -/
def Turn.calls (target : Target) (load : LoadContext E) (history : List Entry) (t : Turn) :
    List (Call Nat E Unit) :=
  let ballot := Ballot.ofLoad target load t.pass history
  if t.outcome.tried then [.vote t.place ballot, .transform t.place () ballot]
  else [.vote t.place ballot]

/-- The calls in turns that come after the given history. -/
def turnCalls (target : Target) (load : LoadContext E) :
    List Entry → List Turn → List (Call Nat E Unit)
  | _, [] => []
  | history, t :: rest =>
    t.calls target load history ++ turnCalls target load (history ++ [t.entry]) rest

theorem turnCalls_append (target : Target) (load : LoadContext E) (history : List Entry)
    (first next : List Turn) :
    turnCalls target load history (first ++ next) = turnCalls target load history first ++
      turnCalls target load (history ++ first.map (·.entry)) next := by
  induction first generalizing history with
  | nil => simp [turnCalls]
  | cons t rest ih => simp [turnCalls, ih]

/-! ## Rounds of turns -/

/-- How a turn ends after which others follow. -/
def Pass.outcomes : Pass → List Outcome
  | .first => [.applied, .declined, .deferred]
  | .second => [.applied, .declined, .deferredTwice]

/-- The turns of one round go to the places in order. The first failure ends the round; where there
is one, the transformer is named. -/
inductive Round (pass : Pass) : List Nat → List Turn → Option String → Prop
  | done : Round pass [] [] none
  | next {place : Nat} {rest : List Nat} {turns : List Turn} {failed? : Option String}
      {entry : Entry} : entry.outcome ∈ pass.outcomes → Round pass rest turns failed? →
      Round pass (place :: rest) (⟨place, pass, entry⟩ :: turns) failed?
  | stop (place : Nat) (rest : List Nat) (label : String) :
      Round pass (place :: rest) [⟨place, pass, ⟨label, .failed⟩⟩] (some label)

/-- The places where the answer was put off, in the order in which that happened. -/
def deferredPlaces (turns : List Turn) : List Nat :=
  (turns.filter (·.outcome = .deferred)).map (·.place)

/-- All places are asked, then those that deferred. -/
inductive TwoRounds (places : List Nat) : List Turn → Option String → Prop
  | broken {turns : List Turn} {label : String} : Round .first places turns (some label) →
      TwoRounds places turns (some label)
  | both {asked again : List Turn} {failed? : Option String} : Round .first places asked none →
      Round .second (deferredPlaces asked) again failed? →
      TwoRounds places (asked ++ again) failed?

/-- The result is a failure of the transformer that is named, or there is no failure. -/
def EndsWith {α : Type} (target : Target) :
    Except TransformError α → Option String → Prop
  | .ok _, none => True
  | .error e, some label => ∃ reason, e = .failed target label reason
  | _, _ => False

theorem EndsWith.eq_none {α : Type} {target : Target} {a : α} {failed? : Option String}
    (h : EndsWith target (.ok a : Except TransformError α) failed?) : failed? = none := by
  cases failed? with
  | none => rfl
  | some label => exact h.elim

/-! ## One turn -/

namespace Reply

/-- What the reply adds to the history. -/
def entry (pass : Pass) : Reply U → Entry
  | .went _ entry => entry
  | .deferred label =>
    match pass with
    | .first => ⟨label, .deferred⟩
    | .second => ⟨label, .deferredTwice⟩
  | .failed _ entry => entry

def Fits (target : Target) : Reply U → Prop
  | .went _ entry => entry.outcome = .applied ∨ entry.outcome = .declined
  | .deferred _ => True
  | .failed e entry =>
    entry.outcome = .failed ∧ ∃ reason, e = .failed target entry.transformer reason

end Reply

section Written

variable {target : Target} {load : LoadContext E} {pass : Pass} {unit : U} {history : List Entry}
  {t : Transformer I H E U} {place : Nat} {s u : Session I (H × List (Call Nat E U))}

theorem notes_of_vote {ballot : Ballot E} {vote : Vote}
    (ran : (t.writing place id).vote ballot s = .ok vote u) :
    u.notes = s.notes ++ [.vote place ballot] := by
  obtain ⟨_, v, noted, rest⟩ := bind_eq_ok ran
  cases noted
  exact notes_of_besideNotes rest

theorem notes_of_transform {ballot : Ballot E} {result : Except String U}
    (ran : (t.writing place id).transform unit ballot s = .ok result u) :
    u.notes = s.notes ++ [.transform place unit ballot] := by
  obtain ⟨_, v, noted, rest⟩ := bind_eq_ok ran
  cases noted
  exact notes_of_besideNotes rest

theorem ask_writing {reply : Reply U}
    (ran : ask target load pass unit history (t.writing place id) s = .ok reply u) :
    reply.Fits target ∧ u.notes.map Call.shown =
      s.notes.map Call.shown ++ Turn.calls target load history ⟨place, pass, reply.entry pass⟩ := by
  unfold ask at ran
  obtain ⟨label, s₁, labelled, ran⟩ := bind_eq_ok ran
  obtain ⟨vote, s₂, voted, ran⟩ := bind_eq_ok ran
  obtain ⟨_, s₃, reported, ran⟩ := bind_eq_ok ran
  have asked : s₃.notes = s.notes ++ [.vote place (.ofLoad target load pass history)] := by
    have kept : s₃.notes = s₂.notes := by cases reported; rfl
    rw [kept, notes_of_vote voted, notes_of_besideNotes labelled]
  cases vote with
  | yes =>
    obtain ⟨result, s₄, transformed, ran⟩ := bind_eq_ok ran
    have applied := notes_of_transform transformed
    cases result with
    | ok next =>
      cases ran
      rw [applied, asked, List.append_assoc, List.map_append]
      exact ⟨.inl rfl, rfl⟩
    | error reason =>
      cases ran
      rw [applied, asked, List.append_assoc, List.map_append]
      exact ⟨⟨rfl, reason, rfl⟩, rfl⟩
  | no =>
    cases ran
    rw [asked, List.map_append]
    exact ⟨.inr rfl, rfl⟩
  | defer =>
    cases ran
    rw [asked, List.map_append]
    cases pass <;> exact ⟨trivial, rfl⟩

/-! ## Both rounds -/

/-- From one session to another, these turns were taken. -/
structure Took (target : Target) (load : LoadContext E) (history : List Entry)
    (s : Session I (H × List (Call Nat E U))) (turns : List Turn) (told : List Entry)
    (u : Session I (H × List (Call Nat E U))) : Prop where
  told : told = history ++ turns.map (·.entry)
  calls : u.notes.map Call.shown = s.notes.map Call.shown ++ turnCalls target load history turns

theorem took_nothing : Took target load history s [] history s :=
  ⟨(List.append_nil _).symm, (List.append_nil _).symm⟩

theorem Took.cons {turn : Turn} {turns : List Turn} {told : List Entry}
    {v : Session I (H × List (Call Nat E U))}
    (first : u.notes.map Call.shown =
      s.notes.map Call.shown ++ turn.calls target load history)
    (rest : Took target load (history ++ [turn.entry]) u turns told v) :
    Took target load history s (turn :: turns) told v where
  told := by rw [rest.told, List.append_assoc]; rfl
  calls := by rw [rest.calls, first, List.append_assoc]; rfl

/-- Transformers write their calls down under the given places. -/
def writers (asked : List (Transformer I H E U × Nat)) :
    List (Transformer I (H × List (Call Nat E U)) E U) :=
  asked.map fun e => e.1.writing e.2 id

theorem secondRound_turns {asked : List (Transformer I H E U × Nat)}
    {result : Except TransformError U} {told : List Entry}
    (ran : secondRound target load unit history (writers asked) s = .ok (result, told) u) :
    ∃ turns failed?, Took target load history s turns told u ∧
      Round .second (asked.map (·.2)) turns failed? ∧ EndsWith target result failed? := by
  induction asked generalizing unit history s with
  | nil =>
    cases ran
    exact ⟨[], none, took_nothing, .done, trivial⟩
  | cons e rest ih =>
    obtain ⟨reply, s₁, replied, ran⟩ := bind_eq_ok ran
    obtain ⟨fits, calls⟩ := ask_writing replied
    cases reply with
    | went next entry =>
      obtain ⟨turns, failed?, took, round, ends⟩ := ih ran
      refine ⟨_, failed?, took.cons calls, .next ?_ round, ends⟩
      rcases fits with h | h <;> simp [Reply.entry, Pass.outcomes, h]
    | failed error entry =>
      cases ran
      obtain ⟨label, _⟩ := entry
      obtain ⟨rfl, because⟩ := fits
      exact ⟨_, some label, took_nothing.cons calls, .stop .., because⟩
    | deferred label =>
      obtain ⟨_, s₂, reported, ran⟩ := bind_eq_ok ran
      cases reported
      obtain ⟨turns, failed?, ⟨told, more⟩, round, ends⟩ := ih ran
      have goesOn : (Reply.entry .second (.deferred label : Reply U)).outcome ∈
          Pass.second.outcomes := by simp [Reply.entry, Pass.outcomes]
      exact ⟨_, failed?, Took.cons calls ⟨told, more⟩, .next goesOn round, ends⟩

theorem firstRound_turns {asked : List (Transformer I H E U × Nat)}
    {result : Except TransformError (U × List (Transformer I (H × List (Call Nat E U)) E U))}
    {told : List Entry}
    (ran : firstRound target load unit history (writers asked) s = .ok (result, told) u) :
    ∃ turns failed?, Took target load history s turns told u ∧
      Round .first (asked.map (·.2)) turns failed? ∧ EndsWith target result failed? ∧
      ∀ unit deferred, result = .ok (unit, deferred) →
        ∃ left, deferred = writers left ∧ left.map (·.2) = deferredPlaces turns := by
  induction asked generalizing unit history s u result told with
  | nil =>
    cases ran
    refine ⟨[], none, took_nothing, .done, trivial, ?_⟩
    rintro _ _ ⟨⟩
    exact ⟨[], rfl, rfl⟩
  | cons e rest ih =>
    obtain ⟨reply, s₁, replied, ran⟩ := bind_eq_ok ran
    obtain ⟨fits, calls⟩ := ask_writing replied
    cases reply with
    | went next entry =>
      obtain ⟨turns, failed?, took, round, ends, left⟩ := ih ran
      refine ⟨_, failed?, took.cons calls, .next ?_ round, ends, ?_⟩
      · rcases fits with h | h <;> simp [Reply.entry, Pass.outcomes, h]
      · have settled : entry.outcome ≠ .deferred := by
          rcases fits with h | h <;> simp [h]
        simpa [deferredPlaces, Turn.outcome, Reply.entry, settled] using left
    | failed error entry =>
      cases ran
      obtain ⟨label, _⟩ := entry
      obtain ⟨rfl, because⟩ := fits
      exact ⟨_, some label, took_nothing.cons calls, .stop .., because, nofun⟩
    | deferred label =>
      obtain ⟨⟨later, told'⟩, s₂, ranLater, ran⟩ := bind_eq_ok ran
      obtain ⟨turns, failed?, took, round, ends, left⟩ := ih ranLater
      have goesOn : (Reply.entry .first (.deferred label : Reply U)).outcome ∈
          Pass.first.outcomes := by simp [Reply.entry, Pass.outcomes]
      cases later with
      | error error =>
        cases ran
        exact ⟨_, failed?, took.cons calls, .next goesOn round, ends, nofun⟩
      | ok found =>
        obtain ⟨last, deferred⟩ := found
        cases ran
        obtain rfl := ends.eq_none
        refine ⟨_, none, took.cons calls, .next goesOn round, trivial, ?_⟩
        rintro _ _ ⟨⟩
        obtain ⟨rest, rfl, places⟩ := left _ _ rfl
        refine ⟨e :: rest, rfl, ?_⟩
        rw [List.map_cons, places]
        rfl

theorem Took.append {first next : List Turn} {told last : List Entry}
    {v : Session I (H × List (Call Nat E U))} (hf : Took target load history s first told u)
    (hn : Took target load told u next last v) :
    Took target load history s (first ++ next) last v where
  told := by rw [hn.told, hf.told, List.map_append, List.append_assoc]
  calls := by rw [hn.calls, hf.calls, hf.told, turnCalls_append, List.append_assoc]

theorem askInRounds_turns {asked : List (Transformer I H E U × Nat)}
    {result : Except TransformError U} {told : List Entry}
    (ran : askInRounds target load unit (writers asked) s = .ok (result, told) u) :
    ∃ turns failed?, Took target load [] s turns told u ∧
      TwoRounds (asked.map (·.2)) turns failed? ∧ EndsWith target result failed? := by
  obtain ⟨⟨found, history⟩, s₁, ranFirst, ran⟩ := bind_eq_ok ran
  obtain ⟨turns, failed?, took, first, ends, left⟩ := firstRound_turns ranFirst
  cases found with
  | error error =>
    cases ran
    obtain ⟨label, rfl⟩ : ∃ label, failed? = some label := by
      cases failed? with
      | none => exact ends.elim
      | some label => exact ⟨label, rfl⟩
    exact ⟨turns, some label, took, .broken first, ends⟩
  | ok found =>
    obtain ⟨unit, deferred⟩ := found
    obtain rfl := ends.eq_none
    obtain ⟨asked, rfl, places⟩ := left _ _ rfl
    obtain ⟨again, failed?, more, second, ends⟩ := secondRound_turns ran
    rw [places] at second
    exact ⟨turns ++ again, failed?, took.append more, .both first second, ends⟩

end Written

/-! ## Whole attempts -/

section Whole

variable {sequence : List (Transformer I H E U)} {unit : U} {target : Target} {load : LoadContext E}
  {s : Session I H} {result : Except TransformError U}

theorem writingPlaces_eq : writingPlaces sequence = writers sequence.zipIdx :=
  List.mapIdx_eq_zipIdx_map ..

theorem inStep_writers (asked : List (Transformer I H E U × Nat)) :
    List.Forall₂ (Transformer.InStep BesideNotes) (asked.map (·.1)) (writers asked) := by
  unfold writers
  rw [List.forall₂_map_left_iff, List.forall₂_map_right_iff, List.forall₂_same]
  exact fun e _ => e.1.inStep_writing e.2 id

theorem inStep_writingPlaces (sequence : List (Transformer I H E U)) :
    List.Forall₂ (Transformer.InStep BesideNotes) sequence (writingPlaces sequence) := by
  have written := inStep_writers sequence.zipIdx
  rwa [List.zipIdx_map_fst, ← writingPlaces_eq] at written

theorem askQueue_of_attempt (ended : (attempt sequence unit target load).answer s = .ok result) :
    ∃ told, (askQueue target load unit [] (sequence.map (·, .first))).answer s =
      .ok (result, told) := by
  unfold attempt at ended
  split at ended
  · next nobody =>
    cases ended
    rw [List.isEmpty_iff.1 nobody, List.map_nil, askQueue]
    exact ⟨[], rfl⟩
  · rw [answer_bind] at ended
    cases asked : (askQueue target load unit [] (sequence.map (·, .first))).answer s with
    | ok found =>
      obtain ⟨found, told⟩ := found
      rw [asked] at ended
      refine ⟨told, ?_⟩
      cases kept : load.trail? <;> simp only [kept] at ended <;> cases ended <;> rfl
    | error crash =>
      rw [asked] at ended
      cases ended

theorem answer_attempt {told : List Entry}
    (asked : (askQueue target load unit [] (sequence.map (·, .first))).answer s =
      .ok (result, told)) : (attempt sequence unit target load).answer s = .ok result := by
  unfold attempt
  split
  · next nobody =>
    rw [List.isEmpty_iff.1 nobody, List.map_nil, askQueue] at asked
    cases asked
    rfl
  · rw [answer_bind, asked]
    cases load.trail? <;> rfl

theorem after_record_nil (trail? : Option String) (s : Session I H) :
    (record trail? target []).after s = s := by
  cases trail? with
  | none => rfl
  | some name =>
    have kept : (s.trails name).record target [] = s.trails name := rfl
    rw [after_of_ok (record_some_apply ..), kept, Trails.set_same]

theorem after_attempt {told : List Entry}
    (asked : (askQueue target load unit [] (sequence.map (·, .first))).answer s =
      .ok (result, told)) :
    (attempt sequence unit target load).after s = (record load.trail? target told).after
      ((askQueue target load unit [] (sequence.map (·, .first))).after s) := by
  unfold attempt
  split
  · next nobody =>
    rw [List.isEmpty_iff.1 nobody, List.map_nil, askQueue] at asked ⊢
    cases asked
    exact (after_record_nil ..).symm
  · rw [after_bind, asked]
    cases load.trail? <;> rfl

theorem noted_attempt {N : Type} {sequence : List (Transformer I (H × List N) E U)} :
    (attempt sequence unit target load).noted s =
      (askQueue target load unit [] (sequence.map (·, .first))).noted s := by
  unfold attempt noted
  split
  · next nobody =>
    rw [List.isEmpty_iff.1 nobody, List.map_nil, askQueue]
    rfl
  · rw [after_bind]
    split
    · cases load.trail? <;> rfl
    · rfl

/-- An attempt that ends has taken turns in two rounds. -/
theorem attempt_turns (ended : (attempt sequence unit target load).answer s = .ok result) :
    ∃ turns failed?,
      (askQueue target load unit [] (sequence.map (·, .first))).answer s =
        .ok (result, turns.map (·.entry)) ∧
      ((attempt (writingPlaces sequence) unit target load).noted s).map Call.shown =
        turnCalls target load [] turns ∧
      TwoRounds (List.range sequence.length) turns failed? ∧ EndsWith target result failed? := by
  obtain ⟨told, asked⟩ := askQueue_of_attempt ended
  have written := inStep_writingPlaces sequence
  rw [writingPlaces_eq] at written
  have step : InStep BesideNotes (askQueue target load unit [] (sequence.map (·, .first)))
      (askQueue target load unit [] ((writers sequence.zipIdx).map (·, .first))) :=
    companions_besideNotes.report.askAll written
  obtain ⟨same, -⟩ := step s (s.withNotes []) rfl
  rw [asked] at same
  have ran := eq_ok_of_answer same.symm
  rw [askQueue_eq_askInRounds] at ran
  obtain ⟨turns, failed?, took, rounds, ends⟩ := askInRounds_turns ran
  have places : sequence.zipIdx.map (·.2) = List.range sequence.length := by
    rw [List.zipIdx_map_snd, List.range_eq_range']
  rw [places] at rounds
  refine ⟨turns, failed?, ?_, ?_, rounds, ends⟩
  · rw [asked, took.told, List.nil_append]
  · have calls := took.calls
    rw [noted_attempt, writingPlaces_eq, askQueue_eq_askInRounds]
    exact calls

end Whole

end TransformRegistry
