import TransformRegistry.Proofs.HistoryShape

/-!
# What is said in an attempt

Transformers can be made to write down what they are asked together with what they answer. Such
notes show what everyone knew: the history that comes with a question is what is told of the
questions before it, and nothing else.
-/

namespace TransformRegistry

variable {I H E U α : Type}

open SessionM

/-! ## Exchanges -/

/-- What a transformer is asked, and its answer. -/
inductive Exchange (E U : Type) where
  | named (place : Nat) (label : String)
  | voted (place : Nat) (ballot : Ballot E) (vote : Vote)
  | applied (place : Nat) (unit : U) (ballot : Ballot E) (result : Except String U)

section Noting

variable {N : Type} {x : SessionM I H α} {f : α → N}

/-- The call, with its value written down. -/
def SessionM.noting (x : SessionM I H α) (f : α → N) : SessionM I (H × List N) α := do
  let a ← besideNotes x
  note (f a)
  return a

theorem notes_of_noting {s u : Session I (H × List N)} {a : α} (ran : noting x f s = .ok a u) :
    u.notes = s.notes ++ [f a] := by
  obtain ⟨_, v, called, ran⟩ := bind_eq_ok ran
  cases ran
  rw [← notes_of_besideNotes called]
  rfl

theorem inStep_noting : SessionM.InStep BesideNotes x (noting x f) := by
  intro s t h
  obtain ⟨same, left⟩ := inStep_besideNotes x s t h
  unfold Meet noting
  rw [answer_bind, after_bind, ← same]
  cases x.answer s with
  | ok a => exact ⟨rfl, left⟩
  | error crash => exact ⟨rfl, left⟩

end Noting

/-- The transformer, with each call and its answer written down under a place. -/
def Transformer.conversing (t : Transformer I H E U) (place : Nat) :
    Transformer I (H × List (Exchange E U)) E U where
  label := noting t.label (.named place)
  targets := besideNotes t.targets
  vote ballot := noting (t.vote ballot) (.voted place ballot)
  transform unit ballot := noting (t.transform unit ballot) (.applied place unit ballot)

theorem Transformer.inStep_conversing (t : Transformer I H E U) (place : Nat) :
    t.InStep BesideNotes (t.conversing place) where
  label := inStep_noting
  vote _ := inStep_noting
  transform _ _ := inStep_noting

/-- The transformers of a sequence write down what they are asked and answer, under their places. -/
def conversingPlaces (sequence : List (Transformer I H E U)) :
    List (Transformer I (H × List (Exchange E U)) E U) :=
  sequence.mapIdx fun place t => t.conversing place

/-! ## Turns with what is said in them -/

/-- How a transformer answers in its turn. The unit is the one it is then applied to. -/
inductive Answer (U : Type) where
  | no
  | defer
  | yes (unit : U) (result : Except String U)

namespace Answer

def vote : Answer U → Vote
  | .no => .no
  | .defer => .defer
  | .yes .. => .yes

def outcome : Pass → Answer U → Outcome
  | _, .no => .declined
  | .first, .defer => .deferred
  | .second, .defer => .deferredTwice
  | _, .yes _ (.ok _) => .applied
  | _, .yes _ (.error _) => .failed

/-- What the registry makes of the answer. -/
def reply (target : Target) (label : String) (unit : U) : Answer U → Reply U
  | .no => .went unit ⟨label, .declined⟩
  | .defer => .deferred label
  | .yes _ (.ok next) => .went next ⟨label, .applied⟩
  | .yes _ (.error reason) => .failed (.failed target label reason) ⟨label, .failed⟩

end Answer

structure Spoken (U : Type) where
  place : Nat
  pass : Pass
  label : String
  answer : Answer U

namespace Spoken

def turn (t : Spoken U) : Turn := ⟨t.place, t.pass, t.label, t.answer.outcome t.pass⟩

/-- What is said after a vote. -/
def application (ballot : Ballot E) (t : Spoken U) : List (Exchange E U) :=
  match t.answer with
  | .yes unit result => [.applied t.place unit ballot result]
  | _ => []

def exchanges (target : Target) (load : LoadContext E) (history : List Entry) (t : Spoken U) :
    List (Exchange E U) :=
  let ballot := Ballot.ofLoad target load t.pass history
  .named t.place t.label :: .voted t.place ballot t.answer.vote :: t.application ballot

end Spoken

/-- What is said in turns that come after the given history. -/
def conversation (target : Target) (load : LoadContext E) :
    List Entry → List (Spoken U) → List (Exchange E U)
  | _, [] => []
  | history, t :: rest =>
    t.exchanges target load history ++ conversation target load (history ++ [t.turn.entry]) rest

/-! ## The queue -/

/-- The front of the queue has a turn, and goes to the end of the queue if it is put off. -/
inductive QueueTurns : List (Nat × Pass) → List Turn → Prop
  | done : QueueTurns [] []
  | settled {place : Nat} {pass : Pass} {entry : Entry} {rest : List (Nat × Pass)}
      {turns : List Turn} : entry.outcome ≠ .deferred → QueueTurns rest turns →
      QueueTurns ((place, pass) :: rest) (⟨place, pass, entry⟩ :: turns)
  | deferred {place : Nat} {label : String} {rest : List (Nat × Pass)} {turns : List Turn} :
      QueueTurns (rest ++ [(place, .second)]) turns →
      QueueTurns ((place, .first) :: rest) (⟨place, .first, ⟨label, .deferred⟩⟩ :: turns)
  | failed (place : Nat) (pass : Pass) (rest : List (Nat × Pass)) (label : String) :
      QueueTurns ((place, pass) :: rest) [⟨place, pass, ⟨label, .failed⟩⟩]

/-- Each place waits once at most, and for its second turn where it has been put off. -/
structure Awaits (taken : List Turn) (queue : List (Nat × Pass)) : Prop where
  once : (queue.map (·.1)).Nodup
  second : ∀ e ∈ queue, e.2 = .second ↔ e.1 ∈ deferredPlaces taken

namespace Awaits

variable {taken : List Turn} {queue rest : List (Nat × Pass)} {place : Nat} {pass : Pass}
  {entry : Entry} {label : String}

theorem of_first (n : Nat) : Awaits [] ((List.range n).map (·, .first)) where
  once := by
    rw [List.map_map]
    simpa [Function.comp_def] using List.nodup_range
  second e he := by
    obtain ⟨place, -, rfl⟩ := List.mem_map.1 he
    simp [deferredPlaces]

theorem settled (h : Awaits taken ((place, pass) :: rest)) (other : entry.outcome ≠ .deferred) :
    Awaits (taken ++ [⟨place, pass, entry⟩]) rest where
  once := (List.nodup_cons.1 h.once).2
  second e he := by
    rw [h.second e (List.mem_cons_of_mem _ he), deferredPlaces_append]
    simp [deferredPlaces, Turn.outcome, other]

theorem deferred (h : Awaits taken ((place, .first) :: rest)) :
    Awaits (taken ++ [⟨place, .first, ⟨label, .deferred⟩⟩]) (rest ++ [(place, .second)]) where
  once := by
    rw [List.map_append, List.perm_append_comm.nodup_iff]
    exact h.once
  second e he := by
    rw [deferredPlaces_append]
    rcases List.mem_append.1 he with waiting | again
    · have other : e.1 ≠ place := fun same =>
        (List.nodup_cons.1 h.once).1 (List.mem_map.2 ⟨e, waiting, same⟩)
      rw [h.second e (List.mem_cons_of_mem _ waiting)]
      simp [deferredPlaces, Turn.outcome, other]
    · rw [List.mem_singleton.1 again]
      simp [deferredPlaces, Turn.outcome]

end Awaits

namespace QueueTurns

variable {queue : List (Nat × Pass)} {turns taken before after : List Turn} {t : Turn}

theorem head (h : QueueTurns queue (t :: turns)) : (t.place, t.pass) ∈ queue := by
  cases h <;> exact List.mem_cons_self

theorem second_iff (h : QueueTurns queue turns) (waits : Awaits taken queue)
    (split : turns = before ++ t :: after) :
    t.pass = .second ↔ t.place ∈ deferredPlaces (taken ++ before) := by
  subst split
  induction before generalizing queue taken with
  | nil =>
    rw [List.append_nil]
    exact waits.second _ h.head
  | cons u before ih =>
    rw [List.append_cons]
    rw [List.cons_append] at h
    generalize more : before ++ t :: after = turns at h
    cases h with
    | settled other next => exact ih (waits.settled other) (more ▸ next)
    | deferred next => exact ih waits.deferred (more ▸ next)
    | failed => simp at more

end QueueTurns

/-! ## One turn after another -/

section Run

variable {target : Target} {load : LoadContext E} {pass : Pass} {unit : U} {history : List Entry}
  {t : Transformer I H E U} {place : Nat} {s u : Session I (H × List (Exchange E U))}

theorem ask_conversing {reply : Reply U}
    (ran : ask target load pass unit history (t.conversing place) s = .ok reply u) :
    ∃ label answer, reply = answer.reply target label unit ∧
      u.notes = s.notes ++ Spoken.exchanges target load history ⟨place, pass, label, answer⟩ := by
  unfold ask at ran
  obtain ⟨label, s₁, labelled, ran⟩ := bind_eq_ok ran
  obtain ⟨vote, s₂, voted, ran⟩ := bind_eq_ok ran
  obtain ⟨_, s₃, reported, ran⟩ := bind_eq_ok ran
  have asked : s₃.notes = s.notes ++ [.named place label,
      .voted place (.ofLoad target load pass history) vote] := by
    have kept : s₃.notes = s₂.notes := by cases reported; rfl
    rw [kept, notes_of_noting voted, notes_of_noting labelled, List.append_assoc]
    rfl
  cases vote with
  | yes =>
    obtain ⟨result, s₄, transformed, ran⟩ := bind_eq_ok ran
    have applied := notes_of_noting transformed
    refine ⟨label, .yes unit result, ?_, ?_⟩
    · cases result <;> cases ran <;> rfl
    · have kept : u.notes = s₄.notes := by cases result <;> cases ran <;> rfl
      rw [kept, applied, asked, List.append_assoc]
      rfl
  | no =>
    cases ran
    exact ⟨label, .no, rfl, asked⟩
  | defer =>
    cases ran
    exact ⟨label, .defer, rfl, asked⟩

/-- From one session to another, this was said. -/
structure Said (target : Target) (load : LoadContext E) (history : List Entry)
    (s : Session I (H × List (Exchange E U))) (spoken : List (Spoken U)) (told : List Entry)
    (u : Session I (H × List (Exchange E U))) : Prop where
  told : told = history ++ spoken.map (·.turn.entry)
  notes : u.notes = s.notes ++ conversation target load history spoken

theorem said_nothing : Said target load history s ([] : List (Spoken U)) history s :=
  ⟨(List.append_nil _).symm, (List.append_nil _).symm⟩

theorem Said.cons {first : Spoken U} {spoken : List (Spoken U)} {told : List Entry}
    {v : Session I (H × List (Exchange E U))}
    (start : u.notes = s.notes ++ first.exchanges target load history)
    (rest : Said target load (history ++ [first.turn.entry]) u spoken told v) :
    Said target load history s (first :: spoken) told v where
  told := by rw [rest.told, List.append_assoc]; rfl
  notes := by rw [rest.notes, start, List.append_assoc]; rfl

/-- A queue of transformers that write down what is said. -/
def conversers (queue : List (Transformer I H E U × Nat × Pass)) :
    List (Transformer I (H × List (Exchange E U)) E U × Pass) :=
  queue.map fun e => (e.1.conversing e.2.1, e.2.2)

theorem conversers_cons (t : Transformer I H E U) (place : Nat) (pass : Pass)
    (rest : List (Transformer I H E U × Nat × Pass)) :
    conversers ((t, place, pass) :: rest) = (t.conversing place, pass) :: conversers rest := rfl

theorem conversers_append (first next : List (Transformer I H E U × Nat × Pass)) :
    conversers (first ++ next) = conversers first ++ conversers next := List.map_append

theorem askQueue_said {queue : List (Transformer I H E U × Nat × Pass)}
    {result : Except TransformError U} {told : List Entry}
    (ran : askQueue target load unit history (conversers queue) s = .ok (result, told) u) :
    ∃ spoken, Said target load history s spoken told u ∧
      QueueTurns (queue.map (·.2)) (spoken.map (·.turn)) := by
  -- on the questions left in the queue: a deferral moves its question to the end, where it is
  -- asked once more and no longer counts as one that may be put off
  induction left : questionsLeft (queue.map (·.2)) using Nat.strongRecOn
    generalizing queue unit history s with
  | ind n ih =>
    subst left
    cases queue with
    | nil =>
      rw [conversers, List.map_nil, askQueue] at ran
      cases ran
      exact ⟨[], said_nothing, .done⟩
    | cons e rest =>
      obtain ⟨t, place, pass⟩ := e
      have popped := questionsLeft_pop (place, pass) (rest.map (·.2))
      rw [conversers_cons, askQueue_cons] at ran
      obtain ⟨reply, s₁, replied, ran⟩ := bind_eq_ok ran
      obtain ⟨label, answer, rfl, start⟩ := ask_conversing replied
      cases answer with
      | no =>
        obtain ⟨spoken, said, turns⟩ := ih _ popped ran rfl
        exact ⟨_, said.cons start, .settled (by rintro ⟨⟩) turns⟩
      | yes _ result =>
        cases result with
        | ok next =>
          obtain ⟨spoken, said, turns⟩ := ih _ popped ran rfl
          exact ⟨_, said.cons start, .settled (by rintro ⟨⟩) turns⟩
        | error reason =>
          cases ran
          exact ⟨_, said_nothing.cons start, .failed ..⟩
      | defer =>
        cases pass with
        | first =>
          have again : conversers rest ++ [(t.conversing place, Pass.second)] =
              conversers (rest ++ [(t, place, Pass.second)]) :=
            (conversers_append rest [(t, place, Pass.second)]).symm
          have fewer : questionsLeft ((rest ++ [(t, place, Pass.second)]).map (·.2)) <
              questionsLeft ((place, Pass.first) :: rest.map (·.2)) := by
            rw [List.map_append]
            exact questionsLeft_requeue place _
          dsimp only [Answer.reply] at ran
          rw [again] at ran
          obtain ⟨spoken, said, turns⟩ := ih _ fewer ran rfl
          rw [List.map_append] at turns
          exact ⟨_, said.cons start, .deferred turns⟩
        | second =>
          obtain ⟨_, s₂, reported, ran⟩ := bind_eq_ok ran
          cases reported
          obtain ⟨spoken, ⟨told, notes⟩, turns⟩ := ih _ popped ran rfl
          exact ⟨_, Said.cons start ⟨told, notes⟩, .settled (by rintro ⟨⟩) turns⟩

end Run

/-! ## What everyone knew -/

/-- The places of the votes, in order. -/
def votedPlaces (said : List (Exchange E U)) : List Nat :=
  said.filterMap fun
    | .voted place _ _ => some place
    | _ => none

/-- What is so of a vote, by what has been said before it and what is said after it. -/
structure Informed (target : Target) (load : LoadContext E) (told : List Entry)
    (before : List (Exchange E U)) (place : Nat) (ballot : Ballot E) (vote : Vote)
    (after : List (Exchange E U)) : Prop where
  /-- The ballot shows the entries for the votes before. -/
  shown : ballot = .ofLoad target load ballot.pass (told.take (votedPlaces before).length)
  /-- It is the second one for a place if an entry that it shows says that this place deferred. -/
  second : ballot.pass = .second ↔
    (place, .deferred) ∈ (votedPlaces before).zip (ballot.history.map (·.outcome))
  /-- A label has been applied if a transformer of that name has transformed the unit before. -/
  applied : ∀ label, ballot.alreadyApplied label = true ↔
    ∃ (earlier : Nat) (unit : U) (shown : Ballot E) (next : U), [.named earlier label,
      .voted earlier shown .yes, .applied earlier unit shown (.ok next)] <:+: before
  /-- Whoever agrees is applied with the same ballot, and nobody else is. -/
  agreed : vote = .yes ↔ ∃ unit result more, after = .applied place unit ballot result :: more

/-- What is said in an attempt, with what is told of it in the end. -/
structure WellInformed (target : Target) (load : LoadContext E) (told : List Entry)
    (said : List (Exchange E U)) : Prop where
  /-- There is an entry for every vote. -/
  counted : told.length = (votedPlaces said).length
  voted : ∀ before place ballot vote after, said = before ++ .voted place ballot vote :: after →
    Informed target load told before place ballot vote after
  /-- Nobody is applied who has not just agreed. -/
  applied : ∀ before place unit ballot result after,
    said = before ++ .applied place unit ballot result :: after →
    ∃ earlier, before = earlier ++ [.voted place ballot .yes]

section Split

variable {target : Target} {load : LoadContext E} {history : List Entry}
  {spoken first next : List (Spoken U)} {before after own left : List (Exchange E U)}
  {x : Exchange E U} {t : Spoken U} {place : Nat} {ballot : Ballot E} {vote : Vote} {unit : U}
  {result : Except String U}

theorem conversation_append :
    conversation target load history (first ++ next) = conversation target load history first ++
      conversation target load (history ++ first.map (·.turn.entry)) next := by
  induction first generalizing history with
  | nil => simp [conversation]
  | cons t rest ih => simp [conversation, ih]

theorem conversation_split
    (split : conversation target load history spoken = before ++ x :: after) :
    ∃ first t next own left, spoken = first ++ t :: next ∧
      before = conversation target load history first ++ own ∧
      t.exchanges target load (history ++ first.map (·.turn.entry)) = own ++ x :: left ∧
      after = left ++
        conversation target load (history ++ (first ++ [t]).map (·.turn.entry)) next := by
  induction spoken generalizing history before with
  | nil => simp [conversation] at split
  | cons t rest ih =>
    rw [conversation] at split
    rcases Text.append_split split with ⟨left, here, rfl⟩ | ⟨later, rfl, rest⟩
    · exact ⟨[], t, rest, before, left, rfl, rfl, by simpa using here, rfl⟩
    · obtain ⟨first, u, next, own, left, rfl, rfl, here, rfl⟩ := ih rest
      refine ⟨t :: first, u, next, own, left, rfl, ?_, ?_, ?_⟩
      · rw [conversation, List.append_assoc]
      · rw [← here, List.map_cons, List.append_cons]
      · rw [List.cons_append, List.map_cons, ← List.append_cons]

theorem exchanges_voted
    (split : t.exchanges target load history = own ++ .voted place ballot vote :: left) :
    own = [.named t.place t.label] ∧ place = t.place ∧
      ballot = .ofLoad target load t.pass history ∧ vote = t.answer.vote ∧
      left = t.application ballot := by
  rcases List.cons_eq_append_iff.1 split with ⟨-, none⟩ | ⟨own, rfl, more⟩
  · cases none
  · rcases List.cons_eq_append_iff.1 more with ⟨rfl, same⟩ | ⟨own, rfl, late⟩
    · cases same
      exact ⟨rfl, rfl, rfl, rfl, rfl⟩
    · unfold Spoken.application at late
      split at late <;> simp [List.cons_eq_append_iff] at late

theorem exchanges_applied
    (split : t.exchanges target load history = own ++ .applied place unit ballot result :: left) :
    own = [.named t.place t.label, .voted t.place ballot .yes] ∧ place = t.place ∧
      t.answer = .yes unit result := by
  rcases List.cons_eq_append_iff.1 split with ⟨-, none⟩ | ⟨own, rfl, more⟩
  · cases none
  · rcases List.cons_eq_append_iff.1 more with ⟨-, none⟩ | ⟨own, rfl, late⟩
    · cases none
    · unfold Spoken.application at late
      split at late
      · next answer =>
        rcases List.cons_eq_append_iff.1 late with ⟨rfl, same⟩ | ⟨own, rfl, none⟩
        · cases same
          rw [answer]
          exact ⟨rfl, rfl, rfl⟩
        · simp at none
      · simp at late

theorem votedPlaces_append (first next : List (Exchange E U)) :
    votedPlaces (first ++ next) = votedPlaces first ++ votedPlaces next := List.filterMap_append

theorem votedPlaces_conversation :
    votedPlaces (conversation target load history spoken) = spoken.map (·.place) := by
  induction spoken generalizing history with
  | nil => rfl
  | cons t rest ih =>
    have one : votedPlaces (t.exchanges target load history) = [t.place] := by
      cases answer : t.answer <;>
        simp [votedPlaces, Spoken.exchanges, Spoken.application, answer]
    rw [conversation, votedPlaces_append, ih, one]
    rfl

end Split

theorem Answer.outcome_eq_applied {pass : Pass} {answer : Answer U} :
    answer.outcome pass = .applied ↔ ∃ unit next, answer = .yes unit (.ok next) := by
  cases answer with
  | no => simp [outcome]
  | defer => cases pass <;> simp [outcome]
  | yes unit result => cases result <;> simp [outcome]

theorem mem_appliedLabels_iff {spoken : List (Spoken U)} {label : String} :
    label ∈ appliedLabels (spoken.map (·.turn.entry)) ↔
      ∃ t ∈ spoken, t.label = label ∧ ∃ unit next, t.answer = .yes unit (.ok next) := by
  simp only [appliedLabels, List.mem_map, List.mem_filter, beq_iff_eq]
  constructor
  · rintro ⟨_, ⟨⟨t, ht, rfl⟩, applied⟩, rfl⟩
    exact ⟨t, ht, rfl, Answer.outcome_eq_applied.1 applied⟩
  · rintro ⟨t, ht, rfl, applied⟩
    exact ⟨_, ⟨⟨t, ht, rfl⟩, Answer.outcome_eq_applied.2 applied⟩, rfl⟩

section WellInformed

variable {target : Target} {load : LoadContext E} {spoken first : List (Spoken U)}
  {before after : List (Exchange E U)} {place : Nat} {ballot : Ballot E} {vote : Vote} {unit : U}
  {result : Except String U}

theorem voted_split
    (split : conversation target load [] spoken = before ++ .voted place ballot vote :: after) :
    ∃ first t next told, spoken = first ++ t :: next ∧ place = t.place ∧ vote = t.answer.vote ∧
      ballot = .ofLoad target load t.pass (first.map (·.turn.entry)) ∧
      before = conversation target load [] first ++ [.named t.place t.label] ∧
      after = t.application ballot ++ conversation target load told next := by
  obtain ⟨first, t, next, own, left, rfl, rfl, here, rfl⟩ := conversation_split split
  obtain ⟨rfl, rfl, rfl, rfl, rfl⟩ := exchanges_voted here
  exact ⟨first, t, next, _, rfl, rfl, rfl, rfl, rfl, rfl⟩

theorem applied_infix_iff {t : Spoken U} {label : String} :
    (∃ (earlier : Nat) (unit : U) (shown : Ballot E) (next : U), [.named earlier label,
        .voted earlier shown .yes, .applied earlier unit shown (.ok next)] <:+:
      conversation target load [] first ++ [.named t.place t.label]) ↔
    label ∈ appliedLabels (first.map (·.turn.entry)) := by
  rw [mem_appliedLabels_iff]
  constructor
  · rintro ⟨earlier, unit, shown, next, a, b, split⟩
    -- The last of it is within the turns, for it is not a name.
    have within : conversation target load [] first ++ [.named t.place t.label] =
        (a ++ [.named earlier label, .voted earlier shown .yes]) ++
          .applied earlier unit shown (.ok next) :: b := by
      rw [← split]
      simp
    rcases Text.append_split within with ⟨left, within, -⟩ | ⟨own, -, other⟩
    · obtain ⟨f, u, g, own, left, rfl, earlierTurns, here, -⟩ := conversation_split within
      obtain ⟨rfl, rfl, answer⟩ := exchanges_applied here
      refine ⟨u, by simp, ?_, unit, next, answer⟩
      have last := (List.append_inj' earlierTurns rfl).2
      simpa using last.symm
    · cases own <;> simp at other
  · rintro ⟨u, hu, rfl, unit, next, answer⟩
    obtain ⟨f, g, rfl⟩ := List.append_of_mem hu
    have here (history : List Entry) : u.exchanges target load history =
        [.named u.place u.label, .voted u.place (.ofLoad target load u.pass history) .yes,
          .applied u.place unit (.ofLoad target load u.pass history) (.ok next)] := by
      simp [Spoken.exchanges, Spoken.application, answer, Answer.vote]
    rw [conversation_append, conversation, here, List.append_assoc, List.append_assoc]
    exact ⟨u.place, unit, _, next, List.infix_append' _ _ _⟩

theorem mem_deferredPlaces_zip {place : Nat} :
    place ∈ deferredPlaces (first.map (·.turn)) ↔ (place, .deferred) ∈
      (first.map (·.place)).zip ((first.map (·.turn.entry)).map (·.outcome)) := by
  rw [mem_deferredPlaces, List.map_map, List.zip_map']
  simp only [List.mem_map, Prod.mk.injEq]
  constructor
  · rintro ⟨_, ⟨t, ht, rfl⟩, deferred, rfl⟩
    exact ⟨t, ht, rfl, deferred⟩
  · rintro ⟨t, ht, rfl, deferred⟩
    exact ⟨_, ⟨t, ht, rfl⟩, deferred, rfl⟩

theorem conversation_ne_applied {told : List Entry} {more : List (Exchange E U)} :
    conversation target load told spoken ≠ .applied place unit ballot result :: more := by
  cases spoken <;> simp [conversation, Spoken.exchanges]

theorem application_iff {t : Spoken U} {told : List Entry} {next : List (Spoken U)} :
    t.answer.vote = .yes ↔ ∃ unit result more, t.application ballot ++
      conversation target load told next = .applied t.place unit ballot result :: more := by
  unfold Spoken.application
  cases t.answer with
  | yes unit result => exact iff_of_true rfl ⟨unit, result, _, rfl⟩
  | no => exact iff_of_false nofun fun ⟨_, _, _, said⟩ => conversation_ne_applied said
  | defer => exact iff_of_false nofun fun ⟨_, _, _, said⟩ => conversation_ne_applied said

theorem votedPlaces_before {t : Spoken U} :
    votedPlaces (conversation target load [] first ++ [.named t.place t.label]) =
      first.map (·.place) := by
  rw [votedPlaces_append, votedPlaces_conversation]
  exact List.append_nil _

/-- Where turns are taken from the queue, and each says what is told of those before, everyone is
well informed. -/
theorem wellInformed_conversation {n : Nat}
    (turns : QueueTurns ((List.range n).map (·, .first)) (spoken.map (·.turn))) :
    WellInformed target load (spoken.map (·.turn.entry)) (conversation target load [] spoken) where
  counted := by rw [votedPlaces_conversation, List.length_map, List.length_map]
  voted before place ballot vote after split := by
    obtain ⟨first, t, next, told, rfl, rfl, rfl, rfl, rfl, rfl⟩ := voted_split split
    refine ⟨?_, ?_, fun label => ?_, application_iff⟩
    · rw [votedPlaces_before, List.length_map, List.map_append,
        List.take_left' (List.length_map ..)]
      rfl
    · have taken := turns.second_iff (Awaits.of_first n) List.map_append
      rw [votedPlaces_before]
      exact taken.trans mem_deferredPlaces_zip
    · rw [applied_infix_iff]
      exact List.contains_iff_mem
  applied before place unit ballot result after split := by
    obtain ⟨first, t, next, own, left, rfl, rfl, here, rfl⟩ := conversation_split split
    obtain ⟨rfl, rfl, -⟩ := exchanges_applied here
    exact ⟨_, List.append_cons ..⟩

end WellInformed

/-! ## Whole attempts -/

section Whole

variable {sequence : List (Transformer I H E U)} {unit : U} {target : Target} {load : LoadContext E}
  {s : Session I H} {result : Except TransformError U}

theorem conversingPlaces_eq :
    conversingPlaces sequence = sequence.zipIdx.map fun e => e.1.conversing e.2 :=
  List.mapIdx_eq_zipIdx_map ..

theorem inStep_conversingPlaces :
    List.Forall₂ (Transformer.InStep BesideNotes) sequence (conversingPlaces sequence) := by
  have each : List.Forall₂ (Transformer.InStep BesideNotes) (sequence.zipIdx.map (·.1))
      (conversingPlaces sequence) := by
    rw [conversingPlaces_eq, List.forall₂_map_left_iff, List.forall₂_map_right_iff,
      List.forall₂_same]
    exact fun e _ => e.1.inStep_conversing e.2
  rwa [List.zipIdx_map_fst] at each

theorem askAll_said {told : List Entry} {s u : Session I (H × List (Exchange E U))}
    (ran : askQueue target load unit [] ((conversingPlaces sequence).map (·, .first)) s =
      .ok (result, told) u) :
    ∃ spoken, Said target load [] s spoken told u ∧
      QueueTurns ((List.range sequence.length).map (·, .first)) (spoken.map (·.turn)) := by
  have queue : (conversingPlaces sequence).map (·, Pass.first) =
      conversers (sequence.zipIdx.map fun e => (e.1, e.2, .first)) := by
    rw [conversingPlaces_eq, conversers, List.map_map, List.map_map]
    rfl
  have places : (sequence.zipIdx.map fun e => (e.1, e.2, Pass.first)).map (·.2) =
      (List.range sequence.length).map (·, .first) := by
    rw [List.range_eq_range', ← List.zipIdx_map_snd, List.map_map, List.map_map]
    rfl
  rw [queue] at ran
  obtain ⟨spoken, said, turns⟩ := askQueue_said ran
  rw [places] at turns
  exact ⟨spoken, said, turns⟩

theorem history_after_record {name : String} {told : List Entry} :
    (((record (some name) target told).after s).trails name).history target =
      (s.trails name).history target ++ told := by
  rw [after_of_ok (record_some_apply ..)]
  dsimp only
  rw [Trails.set_self, Trail.history_record_self]

/-- In an attempt that ends, everyone is shown what the history then has of the questions before,
and nothing that the trail has of other attempts. -/
theorem attempt_informed (sequence : List (Transformer I H E U)) (unit : U) (target : Target)
    (load : LoadContext E) (s : Session I H) (result : Except TransformError U)
    (ended : (attempt sequence unit target load).answer s = .ok result) :
    ∃ told : List Entry,
      let queue := askQueue target load unit [] (sequence.map (·, .first))
      queue.answer s = .ok (result, told) ∧
      (∀ name, load.trail? = some name →
        (((attempt sequence unit target load).after s).trails name).history target =
          ((queue.after s).trails name).history target ++ told) ∧
      (attempt (conversingPlaces sequence) unit target load).answer (s.withNotes []) = .ok result ∧
      WellInformed target load told
        ((attempt (conversingPlaces sequence) unit target load).noted s) := by
  obtain ⟨told, asked⟩ := askQueue_of_attempt ended
  have written : List.Forall₂ (Transformer.InStep BesideNotes) sequence _ :=
    inStep_conversingPlaces
  obtain ⟨same, -⟩ := companions_besideNotes.attempt written s (s.withNotes []) rfl
  obtain ⟨sameQueue, -⟩ := companions_besideNotes.report.askAll written s (s.withNotes []) rfl
  rw [ended] at same
  rw [asked] at sameQueue
  obtain ⟨spoken, said, turns⟩ := askAll_said (eq_ok_of_answer sameQueue.symm)
  refine ⟨told, asked, fun name kept => ?_, same.symm, ?_⟩
  · rw [after_attempt asked, kept, history_after_record]
  · have notes : (attempt (conversingPlaces sequence) unit target load).noted s =
        conversation target load [] spoken := by
      rw [noted_attempt]
      exact said.notes
    have told_eq : told = spoken.map (·.turn.entry) := said.told
    rw [notes, told_eq]
    exact wellInformed_conversation turns

/-- Two of one label defer, after the unit has been applied to another time. Of that, nothing is
shown. -/
theorem attempt_informed_again :
    let sequence := [fickle "a" .defer .defer (.ok ()), fickle "b" .yes .no (.ok ()),
      fickle "a" .defer .yes (.error "broken")]
    let trail := Trail.empty.record (.ofClass "A") [⟨"a", .applied⟩]
    let trails := Trails.empty.set "t" trail
    let s : Session Unit Unit := { store := .empty, trails, host := () }
    let load : LoadContext Unit := { trail? := some "t" }
    let told : List Entry := [⟨"a", .deferred⟩, ⟨"b", .applied⟩, ⟨"a", .deferred⟩,
      ⟨"a", .deferredTwice⟩, ⟨"a", .failed⟩]
    (attempt sequence () (.ofClass "A") load).answer s =
        .ok (.error (.failed (.ofClass "A") "a" "broken")) ∧
      (((attempt sequence () (.ofClass "A") load).after s).trails "t").history (.ofClass "A") =
        ⟨"a", .applied⟩ :: told ∧
      WellInformed (.ofClass "A") load told
        ((attempt (conversingPlaces sequence) () (.ofClass "A") load).noted s) := by
  intro sequence trail trails s load told
  have ended : (attempt sequence () (.ofClass "A") load).answer s =
      .ok (.error (.failed (.ofClass "A") "a" "broken")) := by decide +kernel
  obtain ⟨told', asked, kept, -, informed⟩ :=
    attempt_informed sequence () (.ofClass "A") load s _ ended
  have same : (askQueue (.ofClass "A") load () [] (sequence.map (·, .first))).answer s =
      .ok (.error (.failed (.ofClass "A") "a" "broken"), told) := by decide +kernel
  rw [same, Except.ok.injEq, Prod.mk.injEq] at asked
  obtain ⟨-, rfl⟩ := asked
  refine ⟨ended, ?_, informed⟩
  rw [kept "t" rfl]
  decide +kernel

end Whole

end TransformRegistry
