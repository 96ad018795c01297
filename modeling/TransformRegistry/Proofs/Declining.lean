import TransformRegistry.Proofs.Dialogue

/-!
# Declining late

Who puts a question off and does not agree afterwards might as well have declined at once. Nobody
else notices, as long as nobody looks for more in a history than what has been applied.
-/

namespace TransformRegistry

variable {I H E U : Type}

open SessionM

/-! ## Ballots at a glance -/

/-- What a ballot shows, with no more of its history than the labels that have been applied. -/
structure Glance (E : Type) where
  target : Target
  purpose : Purpose
  pass : Pass
  applied : List String
  extension? : Option E

def Glance.ofLoad (target : Target) (load : LoadContext E) (pass : Pass) (applied : List String) :
    Glance E :=
  ⟨target, load.purpose, pass, applied, load.extension?⟩

def Ballot.glance (b : Ballot E) : Glance E :=
  ⟨b.target, b.purpose, b.pass, b.applied, b.extension?⟩

theorem glance_ofLoad (target : Target) (load : LoadContext E) (pass : Pass)
    (history : List Entry) : (Ballot.ofLoad target load pass history).glance =
      .ofLoad target load pass (appliedLabels history) := rfl

/-- Answers depend on the unit and on what the ballot shows at a glance, and on nothing else. What
is done to the session besides is not restricted. -/
structure Transformer.AtAGlance (x : Transformer I H E U) : Prop where
  label : ∀ s t, x.label.answer s = x.label.answer t
  vote : ∀ b c : Ballot E, b.glance = c.glance →
    ∀ s t, (x.vote b).answer s = (x.vote c).answer t
  transform : ∀ unit (b c : Ballot E), b.glance = c.glance →
    ∀ s t, (x.transform unit b).answer s = (x.transform unit c).answer t

/-- Has the label of another, puts off what comes before the given pass, and then declines. -/
structure Transformer.Declines (y x : Transformer I H E U) (pass : Pass) : Prop where
  label : ∀ s t, y.label.answer s = x.label.answer t
  defers : pass = .second →
    ∀ ballot : Ballot E, ballot.pass = .first → ∀ s, (y.vote ballot).answer s = .ok .defer
  declines : ∀ ballot : Ballot E, ballot.pass = pass → ∀ s, (y.vote ballot).answer s = .ok .no

/-! ## What is said elsewhere -/

/-- The votes, with their places and passes, in order. -/
def castVotes (said : List (Exchange E U)) : List (Nat × Pass × Vote) :=
  said.filterMap fun
    | .voted place ballot vote => some (place, ballot.pass, vote)
    | _ => none

/-- A place votes to defer, and not to agree when it is asked again. -/
def DefersInVain (place : Nat) (said : List (Exchange E U)) : Prop :=
  ∀ v ∈ castVotes said, v.1 = place → v.2.2 ≠ .yes ∧ (v.2.1 = .first → v.2.2 = .defer)

instance (place : Nat) (said : List (Exchange E U)) : Decidable (DefersInVain place said) :=
  inferInstanceAs (Decidable (∀ v ∈ castVotes said, _))

/-- What a transformer is asked, and its answer, with the ballot at a glance. -/
inductive Glimpse (E U : Type) where
  | named (place : Nat) (label : String)
  | voted (place : Nat) (glance : Glance E) (vote : Vote)
  | applied (place : Nat) (unit : U) (glance : Glance E) (result : Except String U)

def Exchange.glimpse : Exchange E U → Glimpse E U
  | .named place label => .named place label
  | .voted place ballot vote => .voted place ballot.glance vote
  | .applied place unit ballot result => .applied place unit ballot.glance result

def Exchange.place : Exchange E U → Nat
  | .named place _ => place
  | .voted place _ _ => place
  | .applied place _ _ _ => place

/-- What all other places are asked and answer. -/
def elsewhere (place : Nat) (said : List (Exchange E U)) : List (Glimpse E U) :=
  (said.filter (·.place ≠ place)).map (·.glimpse)

/-- An attempt from a session ends with a result after these turns: its history and what it leaves
in the trail are their entries, and what is said in it is what is said in them. -/
structure Spoke (sequence : List (Transformer I H E U)) (unit : U) (target : Target)
    (load : LoadContext E) (s : Session I H) (result : Except TransformError U)
    (spoken : List (Spoken U)) : Prop where
  ended : (attempt sequence unit target load).answer s = .ok result
  told : (askQueue target load unit [] (sequence.map (·, .first))).answer s =
    .ok (result, spoken.map (·.turn.entry))
  recorded : (attempt sequence unit target load).after s =
    (record load.trail? target (spoken.map (·.turn.entry))).after
      ((askQueue target load unit [] (sequence.map (·, .first))).after s)
  said : (attempt (conversingPlaces sequence) unit target load).noted s =
    conversation target load [] spoken

/-- The turn instead, if a place declines in that pass. Whoever declines in the first pass is not
asked again. -/
def Spoken.declining (pass : Pass) (place : Nat) (t : Spoken U) : Option (Spoken U) :=
  if t.place ≠ place then some t
  else match pass, t.pass with
    | .first, .second => none
    | .second, .first => some t
    | _, _ => some { t with answer := .no }

/-- Of what is said in one way instead of another, only the place itself can tell. -/
structure Unnoticed (target : Target) (load : LoadContext E) (place : Nat)
    (spoken others : List (Spoken U)) : Prop where
  applied : appliedLabels (others.map (·.turn.entry)) = appliedLabels (spoken.map (·.turn.entry))
  /-- The turns of all other places are the same. -/
  kept : others.filter (·.place ≠ place) = spoken.filter (·.place ≠ place)
  elsewhere : elsewhere place (conversation target load [] others) =
    elsewhere place (conversation target load [] spoken)
  /-- What differs in the history is of these outcomes. -/
  own : ∀ t ∈ spoken ++ others, t.place = place →
    t.turn.outcome ∈ [.deferred, .declined, .deferredTwice]

/-! ## The course of a queue -/

/-- To a question put at a glance, answers so in every session. Whoever agrees is applied to the
unit at hand. -/
structure Transformer.Answers (x : Transformer I H E U) (glance : Glance E) (unit : U)
    (label : String) (answer : Answer U) : Prop where
  label : ∀ s, x.label.answer s = .ok label
  vote : ∀ ballot : Ballot E, ballot.glance = glance →
    ∀ s, (x.vote ballot).answer s = .ok answer.vote
  transform : ∀ shown result, answer = .yes shown result → shown = unit ∧
    ∀ ballot : Ballot E, ballot.glance = glance →
      ∀ s, (x.transform unit ballot).answer s = .ok result

namespace Answer

/-- After the answer, the next in the queue is asked. -/
def Settles (pass : Pass) (answer : Answer U) : Prop :=
  answer.outcome pass ≠ .deferred ∧ answer.outcome pass ≠ .failed

/-- The unit that the next in the queue is asked about. -/
def next (unit : U) : Answer U → U
  | .yes _ (.ok next) => next
  | _ => unit

variable {target : Target} {label name : String} {unit after : U} {entry : Entry}
  {answer : Answer U} {e : TransformError}

theorem settles_no (pass : Pass) : (no : Answer U).Settles pass := ⟨nofun, nofun⟩

theorem settles_defer : (defer : Answer U).Settles .second := ⟨nofun, nofun⟩

theorem of_went (h : .went after entry = answer.reply target label unit) (pass : Pass) :
    answer.Settles pass ∧ after = answer.next unit ∧ entry = ⟨label, answer.outcome pass⟩ := by
  cases answer with
  | no =>
    cases h
    exact ⟨settles_no pass, rfl, rfl⟩
  | defer => cases h
  | yes shown result =>
    cases result <;> cases h
    exact ⟨⟨nofun, nofun⟩, rfl, rfl⟩

theorem of_failed (h : .failed e entry = answer.reply target label unit) :
    ∃ shown reason, answer = .yes shown (.error reason) ∧ e = .failed target label reason := by
  cases answer with
  | no => cases h
  | defer => cases h
  | yes shown result =>
    cases result <;> cases h
    exact ⟨shown, _, rfl, rfl⟩

theorem of_deferred (h : .deferred name = answer.reply target label unit) :
    answer = .defer ∧ name = label := by
  cases answer with
  | no => cases h
  | defer =>
    cases h
    exact ⟨rfl, rfl⟩
  | yes shown result => cases result <;> cases h

end Answer

/-- The turns that a queue leads to, whatever the session. Of those before, what counts is the unit
and the labels that have been applied. -/
inductive Course (target : Target) (load : LoadContext E) : U → List String →
    List (Transformer I H E U × Nat × Pass) → Except TransformError U → List (Spoken U) → Prop
  | done {unit : U} {applied : List String} : Course target load unit applied [] (.ok unit) []
  | settled {x : Transformer I H E U} {place : Nat} {pass : Pass}
      {rest : List (Transformer I H E U × Nat × Pass)} {unit : U} {applied : List String}
      {label : String} {answer : Answer U} {result : Except TransformError U}
      {spoken : List (Spoken U)} :
      x.Answers (.ofLoad target load pass applied) unit label answer → answer.Settles pass →
      Course target load (answer.next unit)
        (applied ++ appliedLabels [⟨label, answer.outcome pass⟩]) rest result spoken →
      Course target load unit applied ((x, place, pass) :: rest) result
        (⟨place, pass, label, answer⟩ :: spoken)
  | deferred {x : Transformer I H E U} {place : Nat}
      {rest : List (Transformer I H E U × Nat × Pass)} {unit : U} {applied : List String}
      {label : String} {result : Except TransformError U} {spoken : List (Spoken U)} :
      x.Answers (.ofLoad target load .first applied) unit label .defer →
      Course target load unit applied (rest ++ [(x, place, .second)]) result spoken →
      Course target load unit applied ((x, place, .first) :: rest) result
        (⟨place, .first, label, .defer⟩ :: spoken)
  | failed {x : Transformer I H E U} {place : Nat} {pass : Pass}
      {rest : List (Transformer I H E U × Nat × Pass)} {unit : U} {applied : List String}
      {label reason : String} :
      x.Answers (.ofLoad target load pass applied) unit label (.yes unit (.error reason)) →
      Course target load unit applied ((x, place, pass) :: rest)
        (.error (.failed target label reason)) [⟨place, pass, label, .yes unit (.error reason)⟩]

section Course

variable {target : Target} {load : LoadContext E} {pass : Pass} {unit : U} {history : List Entry}
  {x : Transformer I H E U} {place : Nat} {label : String} {answer : Answer U}
  {applied : List String} {queue : List (Transformer I H E U × Nat × Pass)}
  {result : Except TransformError U} {spoken : List (Spoken U)}

/-! ### From a run to its course -/

theorem Transformer.AtAGlance.answers (plain : x.AtAGlance) {s t : Session I H} {reply : Reply U}
    (ran : ask target load pass unit history x s = .ok reply t) :
    ∃ label answer, reply = answer.reply target label unit ∧
      x.Answers (.ofLoad target load pass (appliedLabels history)) unit label answer := by
  unfold ask at ran
  obtain ⟨label, s₁, labelled, ran⟩ := bind_eq_ok ran
  obtain ⟨vote, s₂, voted, ran⟩ := bind_eq_ok ran
  obtain ⟨_, s₃, reported, ran⟩ := bind_eq_ok ran
  have named (v : Session I H) : x.label.answer v = .ok label :=
    (plain.label v s).trans (answer_of_ok labelled)
  have votes (ballot : Ballot E)
      (same : ballot.glance = .ofLoad target load pass (appliedLabels history))
      (v : Session I H) : (x.vote ballot).answer v = .ok vote :=
    (plain.vote _ _ same v s₁).trans (answer_of_ok voted)
  cases vote with
  | yes =>
    obtain ⟨result, s₄, transformed, ran⟩ := bind_eq_ok ran
    refine ⟨label, .yes unit result, ?_, named, votes, ?_⟩
    · cases result <;> cases ran <;> rfl
    · rintro _ _ ⟨⟩
      refine ⟨rfl, fun ballot same v => ?_⟩
      exact (plain.transform _ _ _ same v s₃).trans (answer_of_ok transformed)
  | no =>
    cases ran
    exact ⟨label, .no, rfl, named, votes, nofun⟩
  | defer =>
    cases ran
    exact ⟨label, .defer, rfl, named, votes, nofun⟩

theorem course_of_inquiry (plain : ∀ e ∈ queue, e.1.AtAGlance) {s t : Session I H}
    {told : List Entry}
    (ran : Inquiry target load unit history (queue.map fun e => (e.1, e.2.2)) s result told t) :
    ∃ spoken, Course target load unit (appliedLabels history) queue result spoken := by
  generalize asked : queue.map (fun e => (e.1, e.2.2)) = bare at ran
  induction ran generalizing queue with
  | done =>
    rw [List.map_eq_nil_iff.1 asked]
    exact ⟨[], .done⟩
  | went replied _ ih =>
    obtain ⟨⟨x, place, pass⟩, rest, rfl, ⟨⟩, rfl⟩ := List.map_eq_cons_iff.1 asked
    rw [List.forall_mem_cons] at plain
    obtain ⟨label, answer, reply, answers⟩ := plain.1.answers replied
    obtain ⟨settles, rfl, rfl⟩ := Answer.of_went reply pass
    obtain ⟨spoken, course⟩ := ih plain.2 rfl
    rw [appliedLabels_append] at course
    exact ⟨_, .settled answers settles course⟩
  | failed replied =>
    obtain ⟨⟨x, place, pass⟩, rest, rfl, ⟨⟩, rfl⟩ := List.map_eq_cons_iff.1 asked
    rw [List.forall_mem_cons] at plain
    obtain ⟨label, answer, reply, answers⟩ := plain.1.answers replied
    obtain ⟨shown, reason, rfl, rfl⟩ := Answer.of_failed reply
    obtain ⟨rfl, -⟩ := answers.transform _ _ rfl
    exact ⟨_, .failed answers⟩
  | deferred replied _ ih =>
    obtain ⟨⟨x, place, pass⟩, rest, rfl, ⟨⟩, rfl⟩ := List.map_eq_cons_iff.1 asked
    rw [List.forall_mem_cons] at plain
    obtain ⟨label, answer, reply, answers⟩ := plain.1.answers replied
    obtain ⟨rfl, rfl⟩ := Answer.of_deferred reply
    have again : ∀ e ∈ rest ++ [(x, place, Pass.second)], e.1.AtAGlance :=
      List.forall_mem_append.2 ⟨plain.2, List.forall_mem_singleton.2 plain.1⟩
    obtain ⟨spoken, course⟩ := ih again List.map_append
    rw [appliedLabels_append] at course
    exact ⟨_, .deferred answers (by simpa [appliedLabels] using course)⟩
  | deferredTwice replied _ ih =>
    obtain ⟨⟨x, place, pass⟩, rest, rfl, ⟨⟩, rfl⟩ := List.map_eq_cons_iff.1 asked
    rw [List.forall_mem_cons] at plain
    obtain ⟨label, answer, reply, answers⟩ := plain.1.answers replied
    obtain ⟨rfl, rfl⟩ := Answer.of_deferred reply
    obtain ⟨spoken, course⟩ := ih plain.2 rfl
    rw [appliedLabels_append] at course
    exact ⟨_, .settled answers Answer.settles_defer course⟩

/-! ### From a course to runs -/

theorem noting_of_answer {N α : Type} {f : α → N} {c : SessionM I H α} {a : α}
    {s : Session I (H × List N)} (ends : c.answer s.withoutNotes = .ok a) :
    ∃ t, noting c f s = .ok a t := by
  obtain ⟨same, -⟩ := inStep_noting (f := f) s.withoutNotes s rfl
  rw [ends] at same
  exact ⟨_, eq_ok_of_answer same.symm⟩

theorem ask_of_noting {P : Session I (H × List (Exchange E U)) → Prop}
    {s s₁ s₂ : Session I (H × List (Exchange E U))}
    (named : noting x.label (.named place) s = .ok label s₁)
    (voted : noting (x.vote (.ofLoad target load pass history))
      (.voted place (.ofLoad target load pass history)) s₁ = .ok answer.vote s₂)
    (reported : P ((report (.voteCast target label answer.vote pass)).after s₂))
    (applied : ∀ shown result, answer = .yes shown result → shown = unit ∧
      ∃ t, noting (x.transform unit (.ofLoad target load pass history))
        (.applied place unit (.ofLoad target load pass history))
        ((report (.voteCast target label answer.vote pass)).after s₂) = .ok result t ∧ P t) :
    ∃ t, ask target load pass unit history (x.conversing place) s =
        .ok (answer.reply target label unit) t ∧
      t.notes = s.notes ++ Spoken.exchanges target load history ⟨place, pass, label, answer⟩ ∧
      P t := by
  let ballot := Ballot.ofLoad target load pass history
  let s₃ := (report (.voteCast target label answer.vote pass)).after s₂
  have asked : s₃.notes = s.notes ++
      [.named place label, .voted place ballot answer.vote] := by
    have kept : s₃.notes = s₂.notes := rfl
    rw [kept, notes_of_noting voted, notes_of_noting named, List.append_assoc]
    rfl
  cases answer with
  | no => exact ⟨s₃, (bind_of_ok named).trans ((bind_of_ok voted).trans rfl), asked, reported⟩
  | defer => exact ⟨s₃, (bind_of_ok named).trans ((bind_of_ok voted).trans rfl), asked, reported⟩
  | yes shown result =>
    obtain ⟨rfl, s₄, transformed, still⟩ := applied _ _ rfl
    refine ⟨s₄, ?_, ?_, still⟩
    · refine (bind_of_ok named).trans ((bind_of_ok voted).trans ?_)
      refine (bind_of_ok (t := s₃) rfl).trans ((bind_of_ok transformed).trans ?_)
      cases result <;> rfl
    · rw [notes_of_noting transformed, asked, List.append_assoc]
      rfl

theorem Transformer.Answers.ask
    (answers : x.Answers (.ofLoad target load pass (appliedLabels history)) unit label answer)
    (place : Nat) (s : Session I (H × List (Exchange E U))) :
    ∃ t, ask target load pass unit history (x.conversing place) s =
        .ok (answer.reply target label unit) t ∧
      t.notes = s.notes ++ Spoken.exchanges target load history ⟨place, pass, label, answer⟩ := by
  let ballot := Ballot.ofLoad target load pass history
  obtain ⟨s₁, named⟩ := noting_of_answer (f := .named place) (answers.label s.withoutNotes)
  obtain ⟨s₂, voted⟩ := noting_of_answer (f := .voted place ballot)
    (answers.vote ballot (glance_ofLoad ..) s₁.withoutNotes)
  let s₃ := (report (.voteCast target label answer.vote pass)).after s₂
  refine (ask_of_noting (P := fun _ => True) named voted trivial ?_).imp
    fun t turn => ⟨turn.1, turn.2.1⟩
  intro shown result yes
  obtain ⟨rfl, transforms⟩ := answers.transform shown result yes
  obtain ⟨t, transformed⟩ := noting_of_answer (f := .applied place shown ballot)
    (transforms ballot (glance_ofLoad ..) s₃.withoutNotes)
  exact ⟨rfl, t, transformed, trivial⟩

theorem Course.asked (course : Course target load unit applied queue result spoken)
    (same : appliedLabels history = applied) (s : Session I (H × List (Exchange E U))) :
    ∃ told t, askQueue target load unit history (conversers queue) s = .ok (result, told) t ∧
      Said target load history s spoken told t := by
  induction course generalizing history s with
  | done =>
    rw [conversers, List.map_nil, askQueue]
    exact ⟨history, s, rfl, said_nothing⟩
  | @settled x place pass rest unit applied label answer result spoken answers settles _ ih =>
    subst same
    obtain ⟨s₁, ran, start⟩ := answers.ask place s
    rw [conversers_cons, askQueue_cons, bind_of_ok ran]
    cases answer with
    | no =>
      obtain ⟨told, t, ran, said⟩ := ih (appliedLabels_append ..) s₁
      exact ⟨told, t, ran, said.cons start⟩
    | yes shown result =>
      cases result with
      | ok next =>
        obtain ⟨told, t, ran, said⟩ := ih (appliedLabels_append ..) s₁
        exact ⟨told, t, ran, said.cons start⟩
      | error reason => exact absurd rfl settles.2
    | defer =>
      cases pass with
      | first => exact absurd rfl settles.1
      | second =>
        let s₂ := (report (.deferredTwice target label)).after s₁
        obtain ⟨told, t, ran, said⟩ := ih (appliedLabels_append ..) s₂
        have kept : s₂.notes = s₁.notes := rfl
        exact ⟨told, t, ran, said.cons (kept.trans start)⟩
  | @deferred x place rest unit applied label result spoken answers _ ih =>
    subst same
    obtain ⟨s₁, ran, start⟩ := answers.ask place s
    have still : appliedLabels (history ++ [⟨label, .deferred⟩]) = appliedLabels history := by
      simp [appliedLabels]
    obtain ⟨told, t, ran', said⟩ := ih still s₁
    refine ⟨told, t, ?_, said.cons start⟩
    rw [conversers_cons, askQueue_cons, bind_of_ok ran]
    rw [conversers_append] at ran'
    exact ran'
  | @failed x place pass rest unit applied label reason answers =>
    subst same
    obtain ⟨s₁, ran, start⟩ := answers.ask place s
    refine ⟨_, s₁, ?_, said_nothing.cons start⟩
    rw [conversers_cons, askQueue_cons, bind_of_ok ran]
    rfl

end Course

/-! ## The course of an attempt -/

/-- The queue at the beginning. -/
def placed (sequence : List (Transformer I H E U)) : List (Transformer I H E U × Nat × Pass) :=
  sequence.zipIdx.map fun e => (e.1, e.2, .first)

section Attempt

variable {target : Target} {load : LoadContext E} {unit : U} {s : Session I H}
  {sequence : List (Transformer I H E U)} {result : Except TransformError U}
  {spoken : List (Spoken U)} {told : List Entry}

theorem map_placed : (placed sequence).map (fun e => (e.1, e.2.2)) = sequence.map (·, .first) := by
  have firsts : sequence.zipIdx.map (fun e => (e.1, Pass.first)) =
      (sequence.zipIdx.map (·.1)).map (·, .first) := by
    rw [List.map_map]
    rfl
  rw [placed, List.map_map, ← List.zipIdx_map_fst 0 sequence, ← firsts, List.zipIdx_map_fst]
  rfl

theorem conversers_placed :
    conversers (placed sequence) = (conversingPlaces sequence).map (·, .first) := by
  rw [conversers, placed, conversingPlaces_eq, List.map_map, List.map_map]
  rfl

theorem course_of_attempt (plain : ∀ x ∈ sequence, x.AtAGlance)
    (ended : (attempt sequence unit target load).answer s = .ok result) :
    ∃ spoken, Course target load unit [] (placed sequence) result spoken := by
  obtain ⟨told, asked⟩ := askQueue_of_attempt ended
  have ran := eq_ok_of_answer asked
  rw [← map_placed] at ran
  refine course_of_inquiry (fun e he => ?_) (inquiry_of_askQueue ran)
  obtain ⟨⟨x, place⟩, there, rfl⟩ := List.mem_map.1 he
  exact plain x (List.fst_mem_of_mem_zipIdx there)

theorem spoke_of_said {t : Session I (H × List (Exchange E U))}
    (ran : askQueue target load unit [] ((conversingPlaces sequence).map (·, .first))
      (s.withNotes []) = .ok (result, told) t)
    (said : Said target load [] (s.withNotes []) spoken told t) :
    Spoke sequence unit target load s result spoken := by
  have alike : List.Forall₂ (Transformer.InStep BesideNotes) sequence _ := inStep_conversingPlaces
  obtain ⟨same, -⟩ := companions_besideNotes.report.askAll alike s (s.withNotes []) rfl
  have asked := same.trans (answer_of_ok ran)
  have told_eq : told = spoken.map (·.turn.entry) := said.told
  subst told_eq
  refine ⟨answer_attempt asked, asked, after_attempt asked, ?_⟩
  rw [noted_attempt, noted, after_of_ok ran]
  exact said.notes

theorem Course.spoke (course : Course target load unit [] (placed sequence) result spoken)
    (s : Session I H) : Spoke sequence unit target load s result spoken := by
  have fresh : appliedLabels [] = [] := rfl
  obtain ⟨told, t, ran, said⟩ := course.asked fresh (s.withNotes [])
  rw [conversers_placed] at ran
  exact spoke_of_said ran said

end Attempt

/-! ## One place declines -/

/-- Who is asked instead where the place is given to another who declines in that pass. -/
def standIn (pass : Pass) (place : Nat) (y : Transformer I H E U)
    (e : Transformer I H E U × Nat × Pass) : Option (Transformer I H E U × Nat × Pass) :=
  if e.2.1 ≠ place then some e
  else match pass, e.2.2 with
    | .first, .second => none
    | _, _ => some (y, e.2)

section Declining

variable {target : Target} {load : LoadContext E} {pass : Pass} {unit : U} {place : Nat}
  {x y : Transformer I H E U} {label : String} {answer : Answer U} {applied : List String}
  {sequence : List (Transformer I H E U)} {queue : List (Transformer I H E U × Nat × Pass)}
  {result : Except TransformError U} {spoken : List (Spoken U)}

theorem standIn_of_ne {e : Transformer I H E U × Nat × Pass} (other : e.2.1 ≠ place) :
    standIn pass place y e = some e := if_pos other

theorem standIn_first : standIn pass place y (x, place, .first) = some (y, place, .first) := by
  cases pass <;> simp [standIn]

theorem standIn_second :
    standIn .second place y (x, place, .second) = some (y, place, .second) := by
  simp [standIn]

theorem standIn_again : standIn .first place y (x, place, .second) = none := by simp [standIn]

theorem declining_of_ne {t : Spoken U} (other : t.place ≠ place) :
    t.declining pass place = some t := if_pos other

theorem declining_at : Spoken.declining pass place ⟨place, pass, label, answer⟩ =
    some ⟨place, pass, label, .no⟩ := by
  cases pass <;> simp [Spoken.declining]

theorem declining_before : Spoken.declining .second place ⟨place, .first, label, answer⟩ =
    some ⟨place, .first, label, answer⟩ := by
  simp [Spoken.declining]

theorem declining_again : Spoken.declining .first place ⟨place, .second, label, answer⟩ = none := by
  simp [Spoken.declining]

theorem placed_set : placed (sequence.set place y) =
    (placed sequence).filterMap (standIn pass place y) := by
  have asked : (placed sequence).filterMap (standIn pass place y) = (placed sequence).map
      fun e => if e.2.1 = place then (y, e.2) else e := by
    rw [← List.filterMap_eq_map]
    refine List.filterMap_congr fun e he => ?_
    obtain ⟨⟨x, other⟩, -, rfl⟩ := List.mem_map.1 he
    by_cases here : other = place <;> cases pass <;> simp [standIn, here]
  rw [asked]
  refine List.ext_getElem? fun i => ?_
  simp only [placed, List.getElem?_map, List.getElem?_zipIdx, List.getElem?_set, Nat.zero_add]
  by_cases here : place = i
  · subst here
    by_cases within : place < sequence.length
    · simp [within]
    · simp [within]
  · cases sequence[i]? <;> simp [here, Ne.symm here]

theorem Transformer.Declines.answers (declines : y.Declines x pass) {glance : Glance E}
    (answers : x.Answers glance unit label answer) (inPass : glance.pass = pass) :
    y.Answers glance unit label .no where
  label s := (declines.label s s).trans (answers.label s)
  vote ballot same := declines.declines ballot ((congrArg Glance.pass same).trans inPass)
  transform := nofun

theorem Transformer.Declines.answers_before (declines : y.Declines x .second)
    {glance : Glance E} (answers : x.Answers glance unit label answer)
    (inPass : glance.pass = .first) : y.Answers glance unit label .defer where
  label s := (declines.label s s).trans (answers.label s)
  vote ballot same := declines.defers rfl ballot ((congrArg Glance.pass same).trans inPass)
  transform := nofun

theorem Answer.next_eq (disagrees : answer.vote ≠ .yes) : answer.next unit = unit := by
  cases answer with
  | no => rfl
  | defer => rfl
  | yes shown result => exact absurd rfl disagrees

theorem Answer.appliedLabels_eq (disagrees : answer.vote ≠ .yes) :
    appliedLabels [⟨label, answer.outcome pass⟩] = [] := by
  cases answer with
  | no => rfl
  | defer => cases pass <;> rfl
  | yes shown result => exact absurd rfl disagrees

/-- No turn of the place ends with a yes, and the first one ends with a defer. -/
def InVain (place : Nat) (spoken : List (Spoken U)) : Prop :=
  ∀ t ∈ spoken, t.place = place → t.answer.vote ≠ .yes ∧ (t.pass = .first → t.answer = .defer)

/-- The course is the same where a place that does not agree in the end declines instead. -/
theorem Course.declining (course : Course target load unit applied queue result spoken)
    (late : InVain place spoken) (declines : ∀ e ∈ queue, e.2.1 = place → y.Declines e.1 pass) :
    Course target load unit applied (queue.filterMap (standIn pass place y)) result
      (spoken.filterMap (Spoken.declining pass place)) := by
  induction course with
  | done => exact .done
  | @settled x other asked rest unit applied label answer result spoken answers settles _ ih =>
    rw [InVain, List.forall_mem_cons] at late
    rw [List.forall_mem_cons] at declines
    have more := ih late.2 declines.2
    by_cases here : other = place
    · subst here
      obtain ⟨disagrees, puts⟩ := late.1 rfl
      cases asked with
      | first =>
        obtain rfl : answer = .defer := puts rfl
        exact absurd rfl settles.1
      | second =>
        rw [Answer.next_eq disagrees, Answer.appliedLabels_eq disagrees] at more
        cases pass with
        | first =>
          rw [List.filterMap_cons_none standIn_again, List.filterMap_cons_none declining_again]
          rwa [List.append_nil] at more
        | second =>
          rw [List.filterMap_cons_some standIn_second, List.filterMap_cons_some declining_at]
          exact .settled ((declines.1 rfl).answers answers rfl) (Answer.settles_no _) more
    · rw [List.filterMap_cons_some (standIn_of_ne here),
        List.filterMap_cons_some (declining_of_ne here)]
      exact .settled answers settles more
  | @deferred x other rest unit applied label result spoken answers _ ih =>
    rw [InVain, List.forall_mem_cons] at late
    rw [List.forall_mem_cons] at declines
    have again : ∀ e ∈ rest ++ [(x, other, Pass.second)], e.2.1 = place → y.Declines e.1 pass :=
      List.forall_mem_append.2 ⟨declines.2, List.forall_mem_singleton.2 declines.1⟩
    have more := ih late.2 again
    rw [List.filterMap_append] at more
    by_cases here : other = place
    · subst here
      cases pass with
      | first =>
        -- The place is not asked again.
        rw [List.filterMap_cons_none standIn_again, List.filterMap_nil, List.append_nil] at more
        rw [List.filterMap_cons_some standIn_first, List.filterMap_cons_some declining_at]
        refine .settled ((declines.1 rfl).answers answers rfl) (Answer.settles_no _) ?_
        exact (List.append_nil applied).symm ▸ more
      | second =>
        rw [List.filterMap_cons_some standIn_second, List.filterMap_nil] at more
        rw [List.filterMap_cons_some standIn_first, List.filterMap_cons_some declining_before]
        exact .deferred ((declines.1 rfl).answers_before answers rfl) more
    · rw [List.filterMap_cons_some (standIn_of_ne here), List.filterMap_nil] at more
      rw [List.filterMap_cons_some (standIn_of_ne here),
        List.filterMap_cons_some (declining_of_ne here)]
      exact .deferred answers more
  | @failed x other asked rest unit applied label reason answers =>
    have here : other ≠ place := fun here => (late _ (List.mem_singleton_self _) here).1 rfl
    rw [List.filterMap_cons_some (standIn_of_ne here),
      List.filterMap_cons_some (declining_of_ne here)]
    exact .failed answers

/-! ## What everybody else notices -/

theorem castVotes_conversation {history : List Entry} :
    castVotes (conversation target load history spoken) =
      spoken.map fun t => (t.place, t.pass, t.answer.vote) := by
  induction spoken generalizing history with
  | nil => rfl
  | cons t rest ih =>
    have one : castVotes (t.exchanges target load history) =
        [(t.place, t.pass, t.answer.vote)] := by
      cases answer : t.answer <;>
        simp [castVotes, Spoken.exchanges, Spoken.application, answer, Ballot.ofLoad]
    rw [conversation, castVotes, List.filterMap_append, ← castVotes, ← castVotes, ih, one]
    rfl

theorem inVain_of_conversation
    (late : DefersInVain place (conversation target load [] spoken)) : InVain place spoken := by
  intro t ht here
  rw [DefersInVain, castVotes_conversation, List.forall_mem_map] at late
  obtain ⟨disagrees, puts⟩ := late t ht here
  refine ⟨disagrees, fun first => ?_⟩
  have defers := puts first
  cases answer : t.answer with
  | no => simp [answer, Answer.vote] at defers
  | defer => rfl
  | yes shown result => simp [answer, Answer.vote] at defers

theorem place_of_declining {t u : Spoken U} (instead : t.declining pass place = some u) :
    u.place = t.place := by
  unfold Spoken.declining at instead
  split at instead
  · cases instead
    rfl
  · split at instead <;> cases instead <;> rfl

theorem vote_of_declining {t u : Spoken U} (disagrees : t.answer.vote ≠ .yes)
    (instead : t.declining pass place = some u) : u.answer.vote ≠ .yes := by
  unfold Spoken.declining at instead
  split at instead
  · cases instead
    exact disagrees
  · split at instead <;> cases instead
    · exact disagrees
    · exact nofun

theorem elsewhere_append (first next : List (Exchange E U)) :
    elsewhere place (first ++ next) = elsewhere place first ++ elsewhere place next := by
  rw [elsewhere, List.filter_append, List.map_append]
  rfl

theorem elsewhere_own {t : Spoken U} {history : List Entry} (here : t.place = place)
    (disagrees : t.answer.vote ≠ .yes) :
    elsewhere place (t.exchanges target load history) = [] := by
  cases answer : t.answer with
  | yes shown result => exact absurd (by rw [answer]; rfl) disagrees
  | no => simp [elsewhere, Spoken.exchanges, Spoken.application, answer, Exchange.place, here]
  | defer => simp [elsewhere, Spoken.exchanges, Spoken.application, answer, Exchange.place, here]

/-- At a glance, only the applied labels of a history are seen. -/
theorem elsewhere_exchanges {t : Spoken U} {history other : List Entry}
    (same : appliedLabels history = appliedLabels other) :
    elsewhere place (t.exchanges target load history) =
      elsewhere place (t.exchanges target load other) := by
  have glance : (Ballot.ofLoad target load t.pass history).glance =
      (Ballot.ofLoad target load t.pass other).glance := by
    rw [glance_ofLoad, glance_ofLoad, same]
  cases answer : t.answer <;> by_cases here : t.place = place <;>
    simp [elsewhere, Spoken.exchanges, Spoken.application, answer, Exchange.place,
      Exchange.glimpse, here, glance]

theorem appliedLabels_cons (e : Entry) (history : List Entry) :
    appliedLabels (e :: history) = appliedLabels [e] ++ appliedLabels history :=
  appliedLabels_append [e] history

theorem appliedLabels_idle {t : Spoken U} (disagrees : t.answer.vote ≠ .yes) :
    appliedLabels [t.turn.entry] = [] := Answer.appliedLabels_eq disagrees

theorem appliedLabels_declining (late : InVain place spoken) :
    appliedLabels ((spoken.filterMap (Spoken.declining pass place)).map (·.turn.entry)) =
      appliedLabels (spoken.map (·.turn.entry)) := by
  induction spoken with
  | nil => rfl
  | cons t rest ih =>
    rw [InVain, List.forall_mem_cons] at late
    rw [List.map_cons, appliedLabels_cons, ← ih late.2]
    by_cases here : t.place = place
    · obtain ⟨disagrees, -⟩ := late.1 here
      rw [appliedLabels_idle disagrees, List.nil_append]
      cases instead : t.declining pass place with
      | none => rw [List.filterMap_cons_none instead]
      | some u =>
        have idle := vote_of_declining disagrees instead
        rw [List.filterMap_cons_some instead, List.map_cons, appliedLabels_cons,
          appliedLabels_idle idle, List.nil_append]
    · rw [List.filterMap_cons_some (declining_of_ne here), List.map_cons, appliedLabels_cons]

theorem elsewhere_declining (late : InVain place spoken) {history other : List Entry}
    (same : appliedLabels history = appliedLabels other) :
    elsewhere place (conversation target load history
        (spoken.filterMap (Spoken.declining pass place))) =
      elsewhere place (conversation target load other spoken) := by
  induction spoken generalizing history other with
  | nil => rfl
  | cons t rest ih =>
    rw [InVain, List.forall_mem_cons] at late
    rw [conversation, elsewhere_append]
    by_cases here : t.place = place
    · obtain ⟨disagrees, -⟩ := late.1 here
      rw [elsewhere_own here disagrees, List.nil_append]
      cases instead : t.declining pass place with
      | none =>
        rw [List.filterMap_cons_none instead]
        refine ih late.2 ?_
        rw [appliedLabels_append, appliedLabels_idle disagrees, List.append_nil, same]
      | some u =>
        have idle := vote_of_declining disagrees instead
        have there := (place_of_declining instead).trans here
        rw [List.filterMap_cons_some instead, conversation, elsewhere_append,
          elsewhere_own there idle, List.nil_append]
        refine ih late.2 ?_
        rw [appliedLabels_append, appliedLabels_idle idle, appliedLabels_append,
          appliedLabels_idle disagrees, same]
    · rw [List.filterMap_cons_some (declining_of_ne here), conversation, elsewhere_append,
        elsewhere_exchanges same, ih late.2]
      rw [appliedLabels_append, appliedLabels_append, same]

theorem filter_declining :
    (spoken.filterMap (Spoken.declining pass place)).filter (·.place ≠ place) =
      spoken.filter (·.place ≠ place) := by
  induction spoken with
  | nil => rfl
  | cons t rest ih =>
    by_cases here : t.place = place
    · rw [List.filter_cons_of_neg (by simp [here]), ← ih]
      cases instead : t.declining pass place with
      | none => rw [List.filterMap_cons_none instead]
      | some u =>
        have there := (place_of_declining instead).trans here
        rw [List.filterMap_cons_some instead, List.filter_cons_of_neg (by simp [there])]
    · rw [List.filterMap_cons_some (declining_of_ne here), List.filter_cons_of_pos (by simp [here]),
        List.filter_cons_of_pos (by simp [here]), ih]

theorem outcome_idle {t : Spoken U} (disagrees : t.answer.vote ≠ .yes) :
    t.turn.outcome ∈ [.deferred, .declined, .deferredTwice] := by
  obtain ⟨place, pass, label, answer⟩ := t
  cases answer with
  | no => simp [Turn.outcome, Spoken.turn, Answer.outcome]
  | defer => cases pass <;> simp [Turn.outcome, Spoken.turn, Answer.outcome]
  | yes shown result => exact absurd rfl disagrees

theorem unnoticed_declining (late : InVain place spoken) :
    Unnoticed target load place spoken (spoken.filterMap (Spoken.declining pass place)) where
  applied := appliedLabels_declining late
  kept := filter_declining
  elsewhere := elsewhere_declining late rfl
  own t ht here := by
    rcases List.mem_append.1 ht with before | instead
    · exact outcome_idle (late t before here).1
    · obtain ⟨u, hu, instead⟩ := List.mem_filterMap.1 instead
      have there := (place_of_declining instead).symm.trans here
      exact outcome_idle (vote_of_declining (late u hu there).1 instead)

/-! ## Whole attempts -/

/-- One transformer defers and does not agree when it is asked again. If another of its label, who
declines at once or when it is asked again, takes its place, the attempt comes to the same: the same
result, the same labels applied, everybody else asked and applied as before. -/
theorem attempt_declining (sequence : List (Transformer I H E U)) (unit : U) (target : Target)
    (load : LoadContext E) (s : Session I H) (result : Except TransformError U)
    (plain : ∀ x ∈ sequence, x.AtAGlance)
    (ended : (attempt sequence unit target load).answer s = .ok result) (place : Nat)
    (x : Transformer I H E U) (there : sequence[place]? = some x)
    (late : DefersInVain place ((attempt (conversingPlaces sequence) unit target load).noted s)) :
    ∃ spoken, Spoke sequence unit target load s result spoken ∧
      ∀ (pass : Pass) (y : Transformer I H E U), y.Declines x pass → ∀ t : Session I H,
        let others := spoken.filterMap (Spoken.declining pass place)
        Spoke (sequence.set place y) unit target load t result others ∧
        Unnoticed target load place spoken others := by
  obtain ⟨spoken, course⟩ := course_of_attempt plain ended
  have spoke := course.spoke s
  rw [spoke.said] at late
  have inVain := inVain_of_conversation late
  refine ⟨spoken, spoke, fun pass y declines t => ⟨?_, unnoticed_declining inVain⟩⟩
  have inPlace : ∀ e ∈ placed sequence, e.2.1 = place → y.Declines e.1 pass := by
    intro e he here
    obtain ⟨⟨other, i⟩, found, rfl⟩ := List.mem_map.1 he
    obtain rfl : i = place := here
    rw [List.mem_zipIdx_iff_getElem?, there] at found
    cases found
    exact declines
  have instead := course.declining inVain inPlace
  rw [← placed_set] at instead
  exact instead.spoke t

/-- Agrees as soon as another has been applied, and defers before. -/
def heeding (label other : String) : Transformer Unit Unit Unit Unit where
  label := return label
  targets := return []
  vote ballot := return if ballot.alreadyApplied other then .yes else .defer
  transform _ _ := return .ok ()

theorem fickle_atAGlance (label : String) (first second : Vote) (result : Except String Unit) :
    (fickle label first second result).AtAGlance where
  label _ _ := rfl
  vote ballot other same _ _ := by
    have pass : ballot.pass = other.pass := congrArg Glance.pass same
    simp only [fickle, pass, answer_pure]
  transform _ _ _ _ _ _ := rfl

theorem heeding_atAGlance (label other : String) : (heeding label other).AtAGlance where
  label _ _ := rfl
  vote ballot shown same _ _ := by
    have applied : ballot.alreadyApplied other = shown.alreadyApplied other :=
      congrArg (·.applied.contains other) same
    simp only [heeding, applied, answer_pure]
  transform _ _ _ _ _ _ := rfl

/-- One defers twice, another waits for the last. Had the first declined at once, the other would
have waited just as long. -/
theorem attempt_declining_beside_waiting :
    let first := fickle "a" .defer .defer (.ok ())
    let sequence := [first, heeding "b" "c", fickle "c" .yes .no (.ok ())]
    let s : Session Unit Unit := { store := .empty, host := () }
    (attempt sequence () (.ofClass "A") {}).answer s = .ok (.ok ()) ∧
      DefersInVain 0 ((attempt (conversingPlaces sequence) () (.ofClass "A") {}).noted s) ∧
      ∃ spoken, Spoke sequence () (.ofClass "A") {} s (.ok ()) spoken ∧
        spoken.map (·.turn.entry) = [⟨"a", .deferred⟩, ⟨"b", .deferred⟩, ⟨"c", .applied⟩,
          ⟨"a", .deferredTwice⟩, ⟨"b", .applied⟩] ∧
        let others := spoken.filterMap (Spoken.declining .first 0)
        Spoke (sequence.set 0 (fickle "a" .no .no (.ok ()))) () (.ofClass "A") {} s (.ok ())
          others ∧
        others.map (·.turn.entry) = [⟨"a", .declined⟩, ⟨"b", .deferred⟩, ⟨"c", .applied⟩,
          ⟨"b", .applied⟩] ∧
        Unnoticed (.ofClass "A") ({} : LoadContext Unit) 0 spoken others := by
  intro first sequence s
  have ended : (attempt sequence () (.ofClass "A") {}).answer s = .ok (.ok ()) := by
    decide +kernel
  have late : DefersInVain 0
      ((attempt (conversingPlaces sequence) () (.ofClass "A") {}).noted s) := by
    decide +kernel
  have plain : ∀ x ∈ sequence, x.AtAGlance := by
    rw [List.forall_mem_cons, List.forall_mem_cons, List.forall_mem_singleton]
    exact ⟨fickle_atAGlance .., heeding_atAGlance .., fickle_atAGlance ..⟩
  obtain ⟨spoken, spoke, instead⟩ :=
    attempt_declining sequence () (.ofClass "A") {} s _ plain ended 0 first rfl late
  have declines : (fickle "a" .no .no (.ok ())).Declines first .first :=
    ⟨fun _ _ => rfl, nofun, fun ballot _ _ => by simp [fickle]⟩
  obtain ⟨other, unnoticed⟩ := instead .first _ declines s
  refine ⟨ended, late, spoken, spoke, ?_, other, ?_, unnoticed⟩
  · have told : (askQueue (.ofClass "A") {} () [] (sequence.map (·, .first))).answer s =
        .ok (.ok (), [⟨"a", .deferred⟩, ⟨"b", .deferred⟩, ⟨"c", .applied⟩,
          ⟨"a", .deferredTwice⟩, ⟨"b", .applied⟩]) := by decide +kernel
    rw [spoke.told, Except.ok.injEq, Prod.mk.injEq] at told
    exact told.2
  · have told : (askQueue (.ofClass "A") {} ()
        [] ((sequence.set 0 (fickle "a" .no .no (.ok ()))).map (·, .first))).answer s =
        .ok (.ok (), [⟨"a", .declined⟩, ⟨"b", .deferred⟩, ⟨"c", .applied⟩,
          ⟨"b", .applied⟩]) := by decide +kernel
    rw [other.told, Except.ok.injEq, Prod.mk.injEq] at told
    exact told.2

end Declining

end TransformRegistry
