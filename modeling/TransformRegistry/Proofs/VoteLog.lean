import TransformRegistry.Proofs.Declining
import TransformRegistry.Proofs.Heritable

/-!
# The log of votes agrees with the history

Every vote is reported before it takes effect, and its effect is told in the history. Where the
transformers report nothing themselves, the events of an attempt and the entries in its history are
about the same votes, one by one.
-/

namespace TransformRegistry

variable {I H E U α : Type}

open SessionM

/-! ## What is reported -/

/-- How a turn may end after a vote. -/
def Vote.outcomes : Vote → Pass → List Outcome
  | .yes, _ => [.applied, .failed]
  | .no, _ => [.declined]
  | .defer, .first => [.deferred]
  | .defer, .second => [.deferredTwice]

/-- What is reported of a vote. -/
def voteEvents (target : Target) (label : String) (vote : Vote) (pass : Pass) : List Event :=
  .voteCast target label vote pass ::
    if vote = .defer ∧ pass = .second then [.deferredTwice target label] else []

/-- The log has one event for each vote, with a warning after it where the vote was to defer once
too often. What it says of a vote is what the history has come to. -/
structure VoteLog (target : Target) (votes : List (Nat × Pass × Vote)) (told : List Entry)
    (log : List Event) : Prop where
  counted : votes.length = told.length
  reported : log = (votes.zip told).flatMap fun ((_, pass, vote), entry) =>
    voteEvents target entry.transformer vote pass
  outcomes : ∀ vote ∈ votes.zip told, vote.2.outcome ∈ vote.1.2.2.outcomes vote.1.2.1
  messages : ∀ e ∈ log, (e.level, e.message) ∈
    [(Level.trace, "vote cast"), (Level.warn, "voting policy violation")]
  cast : List.Forall₂ (fun e entry => ∃ vote pass,
    e = .voteCast target entry.transformer vote pass ∧ entry.outcome ∈ vote.outcomes pass)
      (log.filter (·.level = .trace)) told
  warnings : (log.filter (·.level = .warn)).length =
    (told.filter (·.outcome = .deferredTwice)).length

namespace Spoken

variable {target : Target} {spoken : List (Spoken U)}

def events (target : Target) (t : Spoken U) : List Event :=
  voteEvents target t.label t.answer.vote t.pass

theorem outcome_mem (t : Spoken U) : t.turn.outcome ∈ t.answer.vote.outcomes t.pass := by
  obtain ⟨place, pass, label, answer⟩ := t
  cases answer with
  | no => simp [turn, Turn.outcome, Answer.outcome, Answer.vote, Vote.outcomes]
  | defer => cases pass <;> simp [turn, Turn.outcome, Answer.outcome, Answer.vote, Vote.outcomes]
  | yes _ result =>
    cases result <;> simp [turn, Turn.outcome, Answer.outcome, Answer.vote, Vote.outcomes]

theorem messages (t : Spoken U) : ∀ e ∈ t.events target, (e.level, e.message) ∈
    [(Level.trace, "vote cast"), (Level.warn, "voting policy violation")] := by
  unfold events voteEvents
  split <;> simp [Event.level, Event.message]

theorem events_trace (t : Spoken U) : (t.events target).filter (·.level = .trace) =
    [.voteCast target t.label t.answer.vote t.pass] := by
  unfold events voteEvents
  split <;> simp [Event.level]

theorem length_events_warn (t : Spoken U) : ((t.events target).filter (·.level = .warn)).length =
    ([t.turn.entry].filter (·.outcome = .deferredTwice)).length := by
  obtain ⟨place, pass, label, answer⟩ := t
  cases answer with
  | no => simp [events, voteEvents, Answer.vote, Event.level, turn, Answer.outcome]
  | defer =>
    cases pass <;> simp [events, voteEvents, Answer.vote, Event.level, turn, Answer.outcome]
  | yes _ result =>
    cases result <;> simp [events, voteEvents, Answer.vote, Event.level, turn, Answer.outcome]

end Spoken

section Log

variable {target : Target} {spoken : List (Spoken U)}

theorem cast_of_spoken : List.Forall₂ (fun e (entry : Entry) => ∃ vote pass,
    e = .voteCast target entry.transformer vote pass ∧ entry.outcome ∈ vote.outcomes pass)
      ((spoken.flatMap (·.events target)).filter (·.level = .trace))
      (spoken.map (·.turn.entry)) := by
  induction spoken with
  | nil => exact .nil
  | cons t rest ih =>
    rw [List.flatMap_cons, List.filter_append, t.events_trace]
    exact .cons ⟨_, _, rfl, t.outcome_mem⟩ ih

theorem warnings_of_spoken :
    ((spoken.flatMap (·.events target)).filter (·.level = .warn)).length =
      ((spoken.map (·.turn.entry)).filter (·.outcome = .deferredTwice)).length := by
  induction spoken with
  | nil => rfl
  | cons t rest ih =>
    rw [List.flatMap_cons, List.filter_append, List.length_append, t.length_events_warn, ih,
      List.map_cons, ← List.length_append, ← List.filter_append]
    rfl

theorem voteLog_of_spoken (target : Target) (spoken : List (Spoken U)) :
    VoteLog target (spoken.map fun t => (t.place, t.pass, t.answer.vote))
      (spoken.map (·.turn.entry)) (spoken.flatMap (·.events target)) where
  counted := by rw [List.length_map, List.length_map]
  reported := by
    rw [List.zip_map', List.flatMap_map]
    rfl
  outcomes := by
    rw [List.zip_map', List.forall_mem_map]
    exact fun t _ => t.outcome_mem
  messages := by
    intro e he
    obtain ⟨t, -, he⟩ := List.mem_flatMap.1 he
    exact t.messages e he
  cast := cast_of_spoken
  warnings := warnings_of_spoken

end Log

/-! ## Who reports nothing -/

/-- In a session that is quiet, the call ends with a value. It reports nothing, and the session is
quiet after it. -/
def SessionM.Discreet (quiet : Store I → H → Prop) (x : SessionM I H α) : Prop :=
  ∀ s, quiet s.store s.host → ∃ a, x.answer s = .ok a ∧ (x.after s).events = s.events ∧
    quiet (x.after s).store (x.after s).host

theorem discreet_pure (quiet : Store I → H → Prop) (a : α) :
    (pure a : SessionM I H α).Discreet quiet :=
  fun _ hs => ⟨a, rfl, rfl, hs⟩

section Run

variable {quiet : Store I → H → Prop} {target : Target} {load : LoadContext E}
  {history : List Entry} {x : Transformer I H E U}

theorem SessionM.Discreet.noting {N : Type} {c : SessionM I H α} (discreet : c.Discreet quiet)
    (f : α → N) {s : Session I (H × List N)} (hs : quiet s.store s.host.1) :
    ∃ a t, c.noting f s = .ok a t ∧ t.events = s.events ∧ quiet t.store t.host.1 := by
  obtain ⟨a, ends, events, still⟩ := discreet s.withoutNotes hs
  obtain ⟨same, left⟩ := inStep_noting (f := f) s.withoutNotes s rfl
  rw [ends] at same
  have ran := eq_ok_of_answer same.symm
  rw [BesideNotes] at left
  rw [← left] at events still
  exact ⟨a, _, ran, events, still⟩

theorem ask_logged (target : Target) (load : LoadContext E) (pass : Pass) (unit : U)
    (history : List Entry) (discreet : x.AppliesWith (Discreet quiet)) (place : Nat)
    {s : Session I (H × List (Exchange E U))} (hs : quiet s.store s.host.1) :
    ∃ label answer t, ask target load pass unit history (x.conversing place) s =
        .ok (answer.reply target label unit) t ∧
      t.notes = s.notes ++ Spoken.exchanges target load history ⟨place, pass, label, answer⟩ ∧
      t.events = s.events ++ [.voteCast target label answer.vote pass] ∧
      quiet t.store t.host.1 := by
  let ballot := Ballot.ofLoad target load pass history
  obtain ⟨label, s₁, named, mute₁, h₁⟩ := discreet.label.noting (.named place) hs
  obtain ⟨vote, s₂, voted, mute₂, h₂⟩ := (discreet.vote ballot).noting (.voted place ballot) h₁
  let s₃ := (report (.voteCast target label vote pass)).after s₂
  have reported : s₃.events = s.events ++ [.voteCast target label vote pass] := by
    have one : s₃.events = s₂.events ++ [.voteCast target label vote pass] := rfl
    rw [one, mute₂, mute₁]
  cases vote with
  | no => exact ⟨label, .no, ask_of_noting named voted ⟨reported, h₂⟩ nofun⟩
  | defer => exact ⟨label, .defer, ask_of_noting named voted ⟨reported, h₂⟩ nofun⟩
  | yes =>
    obtain ⟨result, s₄, transformed, mute₄, h₄⟩ :=
      (discreet.transform unit ballot).noting (.applied place unit ballot) (s := s₃) h₂
    refine ⟨label, .yes unit result, ask_of_noting named voted ⟨reported, h₂⟩ ?_⟩
    rintro _ _ ⟨⟩
    exact ⟨rfl, s₄, transformed, mute₄.trans reported, h₄⟩

/-- From one session to another, this was said and reported. -/
structure Logged (target : Target) (load : LoadContext E) (history : List Entry)
    (s : Session I (H × List (Exchange E U))) (spoken : List (Spoken U)) (told : List Entry)
    (t : Session I (H × List (Exchange E U))) : Prop
    extends Said target load history s spoken told t where
  events : t.events = s.events ++ spoken.flatMap (·.events target)

theorem logged_nothing {s : Session I (H × List (Exchange E U))} :
    Logged target load history s ([] : List (Spoken U)) history s where
  toSaid := said_nothing
  events := (List.append_nil _).symm

theorem Logged.cons {first : Spoken U} {spoken : List (Spoken U)} {told : List Entry}
    {s t u : Session I (H × List (Exchange E U))}
    (start : u.notes = s.notes ++ first.exchanges target load history)
    (reported : u.events = s.events ++ first.events target)
    (rest : Logged target load (history ++ [first.turn.entry]) u spoken told t) :
    Logged target load history s (first :: spoken) told t where
  toSaid := rest.toSaid.cons start
  events := by
    rw [rest.events, reported, List.append_assoc]
    rfl

/-- A queue of discreet transformers comes to its end, and no more is reported than the votes. -/
theorem askQueue_logged (target : Target) (load : LoadContext E) (unit : U)
    (history : List Entry) {queue : List (Transformer I H E U × Nat × Pass)}
    (discreet : ∀ e ∈ queue, e.1.AppliesWith (Discreet quiet))
    {s : Session I (H × List (Exchange E U))} (hs : quiet s.store s.host.1) :
    ∃ result told spoken t,
      askQueue target load unit history (conversers queue) s = .ok (result, told) t ∧
      Logged target load history s spoken told t := by
  -- on the questions left in the queue, as a deferral moves its question to the end
  induction left : questionsLeft (queue.map (·.2)) using Nat.strongRecOn
    generalizing queue unit history s with
  | ind n ih =>
    subst left
    cases queue with
    | nil =>
      rw [conversers, List.map_nil, askQueue]
      exact ⟨_, _, [], s, rfl, logged_nothing⟩
    | cons e rest =>
      obtain ⟨x, place, pass⟩ := e
      rw [List.forall_mem_cons] at discreet
      have popped := questionsLeft_pop (place, pass) (rest.map (·.2))
      obtain ⟨label, answer, u, ran, notes, events, hu⟩ :=
        ask_logged target load pass unit history discreet.1 place hs
      rw [conversers_cons, askQueue_cons, bind_of_ok ran]
      cases answer with
      | no =>
        obtain ⟨result, told, spoken, t, ran, logged⟩ := ih _ popped _ _ discreet.2 hu rfl
        exact ⟨result, told, _, t, ran, logged.cons notes events⟩
      | yes shown outcome =>
        cases outcome with
        | ok next =>
          obtain ⟨result, told, spoken, t, ran, logged⟩ := ih _ popped _ _ discreet.2 hu rfl
          exact ⟨result, told, _, t, ran, logged.cons notes events⟩
        | error reason => exact ⟨_, _, _, u, rfl, logged_nothing.cons notes events⟩
      | defer =>
        cases pass with
        | first =>
          have fewer : questionsLeft ((rest ++ [(x, place, Pass.second)]).map (·.2)) <
              questionsLeft ((place, Pass.first) :: rest.map (·.2)) := by
            rw [List.map_append]
            exact questionsLeft_requeue place _
          have again : ∀ e ∈ rest ++ [(x, place, Pass.second)],
              e.1.AppliesWith (Discreet quiet) :=
            List.forall_mem_append.2 ⟨discreet.2, List.forall_mem_singleton.2 discreet.1⟩
          obtain ⟨result, told, spoken, t, ran, logged⟩ := ih _ fewer _ _ again hu rfl
          rw [conversers_append] at ran
          exact ⟨result, told, _, t, ran, logged.cons notes events⟩
        | second =>
          let v := (report (.deferredTwice target label)).after u
          obtain ⟨result, told, spoken, t, ran, logged⟩ :=
            ih _ popped _ _ (s := v) discreet.2 hu rfl
          have warned : v.events = s.events ++ [.voteCast target label .defer .second,
              .deferredTwice target label] := by
            have one : v.events = u.events ++ [.deferredTwice target label] := rfl
            rw [one, events, List.append_assoc]
            rfl
          exact ⟨result, told, _, t, ran, logged.cons (u := v) notes warned⟩

end Run

/-! ## Whole attempts -/

section Whole

variable {target : Target}

theorem events_after_record (trail? : Option String) (told : List Entry) (s : Session I H) :
    ((record trail? target told).after s).events = s.events := by
  cases trail? <;> rfl

/-- Where nobody crashes or reports anything, an attempt ends. Its votes, its history and what it
reports are about the same turns. -/
theorem attempt_logs_votes (quiet : Store I → H → Prop) (sequence : List (Transformer I H E U))
    (discreet : ∀ x ∈ sequence, x.AppliesWith (Discreet quiet)) (unit : U) (target : Target)
    (load : LoadContext E) (s : Session I H) (hs : quiet s.store s.host) :
    ∃ result spoken log, Spoke sequence unit target load s result spoken ∧
      ((attempt sequence unit target load).after s).events = s.events ++ log ∧
      VoteLog target
        (castVotes ((attempt (conversingPlaces sequence) unit target load).noted s))
        (spoken.map (·.turn.entry)) log := by
  have asked : ∀ e ∈ placed sequence, e.1.AppliesWith (Discreet quiet) := by
    intro e he
    obtain ⟨⟨x, place⟩, there, rfl⟩ := List.mem_map.1 he
    exact discreet x (List.fst_mem_of_mem_zipIdx there)
  obtain ⟨result, told, spoken, t, ran, logged⟩ :=
    askQueue_logged target load unit [] asked (s := s.withNotes []) hs
  rw [conversers_placed] at ran
  have spoke := spoke_of_said ran logged.toSaid
  refine ⟨result, spoken, spoken.flatMap (·.events target), spoke, ?_, ?_⟩
  · have alike : List.Forall₂ (Transformer.InStep BesideNotes) sequence _ := inStep_conversingPlaces
    obtain ⟨-, left⟩ := companions_besideNotes.report.askAll alike s (s.withNotes []) rfl
    rw [BesideNotes, after_of_ok ran] at left
    rw [spoke.recorded, events_after_record, ← left]
    exact logged.events
  · rw [spoke.said, castVotes_conversation]
    exact voteLog_of_spoken target spoken

/-- Two of one label defer. Only the one that does so again is warned of, and the other fails. -/
theorem attempt_logs_votes_failing :
    let sequence := [fickle "a" .defer .defer (.ok ()), fickle "b" .yes .no (.ok ()),
      fickle "a" .defer .yes (.error "broken")]
    let s : Session Unit Unit := { store := .empty, host := () }
    let target : Target := .ofClass "A"
    let told : List Entry := [⟨"a", .deferred⟩, ⟨"b", .applied⟩, ⟨"a", .deferred⟩,
      ⟨"a", .deferredTwice⟩, ⟨"a", .failed⟩]
    let log : List Event := [.voteCast target "a" .defer .first, .voteCast target "b" .yes .first,
      .voteCast target "a" .defer .first, .voteCast target "a" .defer .second,
      .deferredTwice target "a", .voteCast target "a" .yes .second]
    ((attempt sequence () target {}).after s).events = log ∧
      VoteLog target (castVotes ((attempt (conversingPlaces sequence) () target {}).noted s))
        told log := by
  intro sequence s target told log
  have discreet : ∀ x ∈ sequence, x.AppliesWith (Discreet fun _ _ => True) := by
    have one (label : String) (first second : Vote) (result : Except String Unit) :
        (fickle label first second result).AppliesWith (Discreet fun _ _ => True) :=
      ⟨discreet_pure _ _, fun _ => discreet_pure _ _, fun _ _ => discreet_pure _ _⟩
    simp only [sequence, List.forall_mem_cons, one, true_and]
    exact fun _ none => nomatch none
  obtain ⟨result, spoken, found, spoke, events, agrees⟩ :=
    attempt_logs_votes _ sequence discreet () target {} s trivial
  have reported : ((attempt sequence () target {}).after s).events = log := by decide +kernel
  have asked : (askQueue target {} () [] (sequence.map (·, .first))).answer s =
      .ok (.error (.failed target "a" "broken"), told) := by decide +kernel
  have same : spoken.map (·.turn.entry) = told := by
    rw [spoke.told, Except.ok.injEq, Prod.mk.injEq] at asked
    exact asked.2
  have all : found = log := events.symm.trans reported
  rw [same, all] at agrees
  exact ⟨reported, agrees⟩

end Whole

end TransformRegistry
