import TransformRegistry.Proofs.Visits

/-!
# Loads that fail

The first failure ends a load. It is put down to the target and the transformer that it came from.
Every unit before has been through with all who are registered for it, and nobody is asked after.
-/

namespace TransformRegistry

variable {I H E V W ν μ : Type} {U : Kind → Type}

open SessionM

/-! ## Calls under handles -/

/-- The call, of someone who goes by another name. -/
def Call.named (f : ν → μ) : Call ν E V → Call μ E V
  | .vote who ballot => .vote (f who) ballot
  | .transform who unit ballot => .transform (f who) unit ballot

/-- The call of a transformer that is registered, whatever the unit. -/
def Call.heard (c : Call (Handle I) E V) : Call (Option (Handle I)) E Unit := c.shown.named some

/-- The calls in turns that go to these handles, by their places. -/
def calledInTurns (handles : List (Handle I)) (target : Target) (load : LoadContext E)
    (turns : List Turn) : List (Call (Option (Handle I)) E Unit) :=
  (turnCalls target load [] turns).map (Call.named (handles[·]?))

/-- Since calls were written down under places as well, the two notes agree. -/
def WrittenTwice (handles : List (Handle I)) (before : List (Call (Option (Handle I)) E Unit))
    (_ : Store I) (host : (H × List (Call (Handle I) E V)) × List (Call Nat E W)) : Prop :=
  host.1.2.map Call.heard = before ++ host.2.map fun c => c.shown.named (handles[·]?)

theorem after_note_besideNotes {N α : Type} (c : N) (x : SessionM I H α)
    (s : Session I (H × List N)) :
    (do note c; besideNotes x : SessionM I (H × List N) α).after s =
      (x.after s.withoutNotes).withNotes (s.notes ++ [c]) :=
  after_besideNotes x _

theorem WrittenTwice.append {handles : List (Handle I)}
    {before : List (Call (Option (Handle I)) E Unit)} {store : Store I} {x y : H}
    {calls : List (Call (Handle I) E V)} {turns : List (Call Nat E W)} {c : Call (Handle I) E V}
    {d : Call Nat E W} (twice : WrittenTwice handles before store ((x, calls), turns))
    (same : c.heard = d.shown.named (handles[·]?)) :
    WrittenTwice handles before store ((y, calls ++ [c]), turns ++ [d]) := by
  unfold WrittenTwice at twice ⊢
  rw [List.map_append, List.map_append, twice, List.append_assoc]
  simp only [List.map_singleton, same]

theorem writing_writtenTwice {t : Transformer I H E V} {handles : List (Handle I)}
    {before : List (Call (Option (Handle I)) E Unit)} {h : Handle I} {place : Nat}
    (there : handles[place]? = some h) (seen : V → W) :
    ((t.writing h seen).writing place id).AppliesWith
      (Keeps (WrittenTwice (H := H) (V := W) (W := V) handles before)) where
  label s hs := by
    rw [Transformer.writing, Transformer.writing, after_besideNotes, after_besideNotes]
    exact hs
  vote ballot s hs := by
    rw [Transformer.writing, after_note_besideNotes, Transformer.writing, after_note_besideNotes]
    exact WrittenTwice.append hs (congrArg (Call.vote · ballot) there.symm)
  transform unit ballot s hs := by
    rw [Transformer.writing, after_note_besideNotes, Transformer.writing, after_note_besideNotes]
    exact WrittenTwice.append hs (congrArg (Call.transform · () ballot) there.symm)

section Attempts

variable {r : Roster I H E U} {snapshot : Snapshot I} {load : LoadContext E} {k : Kind}
  {target : Target} {unit : U k} {result : Except TransformError (U k)}
  {s : Session I (H × List (Call (Handle I) E (CodeUnit U)))}

variable (r snapshot) in
theorem writingPlaces_writtenTwice (before : List (Call (Option (Handle I)) E Unit))
    (kind : target.kind = k) (load : LoadContext E) (unit : U k) :
    (attempt (writingPlaces (snapshot.transformers r.writing k target)) unit target load).Keeps
      (WrittenTwice (snapshot.handlesFor target) before) := by
  refine (keeps_heritable _).attempt (keeps_records _) fun x hx => ?_
  obtain ⟨place, bound, rfl⟩ := List.getElem_of_mem hx
  simp only [writingPlaces, Snapshot.transformers, List.getElem_mapIdx, List.getElem_map]
  refine writing_writtenTwice ?_ _
  subst kind
  simp [Snapshot.handlesFor]

theorem attempt_calls (kind : target.kind = k)
    (ended : (attempt (snapshot.transformers r.writing k target) unit target load).answer s =
      .ok result) :
    ∃ turns failed?,
      (askQueue target load unit []
        ((snapshot.transformers r.writing k target).map (·, .first))).answer s =
          .ok (result, turns.map (·.entry)) ∧
      ((attempt (snapshot.transformers r.writing k target) unit target load).after s).notes.map
          Call.heard =
        s.notes.map Call.heard ++ calledInTurns (snapshot.handlesFor target) target load turns ∧
      TwoRounds (List.range (snapshot.handlesFor target).length) turns failed? ∧
      EndsWith target result failed? := by
  obtain ⟨turns, failed?, asked, calls, rounds, ends⟩ := attempt_turns ended
  have length : (snapshot.transformers r.writing k target).length =
      (snapshot.handlesFor target).length := by
    rw [Snapshot.transformers, Snapshot.handlesFor, List.length_map, List.length_map, kind]
  rw [length] at rounds
  refine ⟨turns, failed?, asked, ?_, rounds, ends⟩
  have twice := writingPlaces_writtenTwice r snapshot (s.notes.map Call.heard) kind load unit
    (s.withNotes []) (List.append_nil _).symm
  have beside : ((attempt (writingPlaces (snapshot.transformers r.writing k target)) unit target
      load).after (s.withNotes [])).withoutNotes =
        (attempt (snapshot.transformers r.writing k target) unit target load).after s :=
    (companions_besideNotes.attempt (inStep_writingPlaces _) s (s.withNotes []) rfl).2
  have split := congrArg (List.map (Call.named ((snapshot.handlesFor target)[·]?))) calls
  rw [List.map_map] at split
  rw [← beside]
  refine twice.trans (congrArg _ ?_)
  exact split

end Attempts

/-! ## Visits with their turns -/

/-- The calls in turns on targets, one after another. -/
def calledFor (snapshot : Snapshot I) (load : LoadContext E) (taken : List (Target × List Turn)) :
    List (Call (Option (Handle I)) E Unit) :=
  taken.flatMap fun d => calledInTurns (snapshot.handlesFor d.1) d.1 load d.2

/-- What the turns tell of their targets. -/
def toldInTurns (taken : List (Target × List Turn)) : Telling :=
  taken.map fun d => (d.1, d.2.map (·.entry))

theorem toldInTurns_append (first next : List (Target × List Turn)) :
    toldInTurns (first ++ next) = toldInTurns first ++ toldInTurns next :=
  List.map_append

/-- In visits that came to an end, everyone who is registered is done with. -/
theorem Walk.calls {r : Roster I H E U} {snapshot : Snapshot I} {load : LoadContext E}
    {s t : Session I (H × List (Call (Handle I) E (CodeUnit U)))} {visits : List (Visit U)}
    (walk : Walk r.writing snapshot load s visits t) :
    ∃ done : List (Target × List Turn), toldInTurns done = visits.map Visit.telling ∧
      (∀ d ∈ done, WellTurned (snapshot.handlesFor d.1).length d.2 false) ∧
      t.notes.map Call.heard = s.notes.map Call.heard ++ calledFor snapshot load done := by
  induction walk with
  | stay => exact ⟨[], rfl, nofun, (List.append_nil _).symm⟩
  | @visit s t u v rest visited _ ih =>
    obtain ⟨turns, failed?, asked, calls, rounds, ends⟩ :=
      attempt_calls visited.kind (answer_of_ok visited.ran)
    obtain rfl := ends.eq_none
    have told := (Prod.mk.inj (Except.ok.inj (visited.asked.symm.trans asked))).2
    have left : (attempt (snapshot.transformers r.writing v.kind v.target) v.change.unit v.target
        load).after s = t := after_of_ok visited.ran
    obtain ⟨done, tells, turned, more⟩ := ih
    refine ⟨(v.target, turns) :: done, ?_, List.forall_mem_cons.2 ⟨rounds.wellTurned, turned⟩, ?_⟩
    · rw [List.map_cons, ← tells, Visit.telling, told]
      rfl
    · rw [more, ← left, calls, List.append_assoc]
      rfl

/-! ## Who failed -/

/-- The transformer was asked, agreed, and failed for this reason, in this session. -/
def FailsOn (x : Transformer I H E V) (target : Target) (load : LoadContext E)
    (label reason : String) (t : Session I H) : Prop :=
  ∃ pass history unit s u v, x.label s = .ok label u ∧
    x.vote (.ofLoad target load pass history) u = .ok .yes v ∧
    x.transform unit (.ofLoad target load pass history)
      { v with events := v.events ++ [.voteCast target label .yes pass] } = .ok (.error reason) t

section Failing

variable {x : Transformer I H E V} {target : Target} {load : LoadContext E} {pass : Pass}
  {unit : V} {history told : List Entry} {s t : Session I H} {e : TransformError}

theorem ask_failed {entry : Entry}
    (ran : ask target load pass unit history x s = .ok (.failed e entry) t) :
    ∃ label reason, e = .failed target label reason ∧ FailsOn x target load label reason t := by
  unfold ask at ran
  obtain ⟨label, s₁, labelled, ran⟩ := bind_eq_ok ran
  obtain ⟨vote, s₂, voted, ran⟩ := bind_eq_ok ran
  obtain ⟨_, s₃, reported, ran⟩ := bind_eq_ok ran
  cases reported
  cases vote with
  | yes =>
    obtain ⟨result, s₄, transformed, ran⟩ := bind_eq_ok ran
    cases result with
    | ok next => cases ran
    | error reason =>
      cases ran
      exact ⟨label, reason, rfl, pass, history, unit, s, s₁, s₂, labelled, voted, transformed⟩
  | no => cases ran
  | defer => cases ran

theorem askQueue_failed {queue : List (Transformer I H E V × Pass)}
    (ran : askQueue target load unit history queue s = .ok (.error e, told) t) :
    ∃ q ∈ queue, ∃ label reason, e = .failed target label reason ∧
      FailsOn q.1 target load label reason t := by
  replace ran := inquiry_of_askQueue ran
  generalize ended : (.error e : Except TransformError V) = result at ran
  induction ran with
  | done => cases ended
  | failed asked =>
    cases ended
    obtain ⟨label, reason, rfl, fails⟩ := ask_failed asked
    exact ⟨_, List.mem_cons_self, label, reason, rfl, fails⟩
  | went _ _ ih =>
    obtain ⟨q, hq, because⟩ := ih ended
    exact ⟨q, List.mem_cons_of_mem _ hq, because⟩
  | deferredTwice _ _ ih =>
    obtain ⟨q, hq, because⟩ := ih ended
    exact ⟨q, List.mem_cons_of_mem _ hq, because⟩
  | deferred _ _ ih =>
    obtain ⟨q, hq, because⟩ := ih ended
    rcases List.mem_append.1 hq with later | again
    · exact ⟨q, List.mem_cons_of_mem _ later, because⟩
    · rw [List.mem_singleton.1 again] at because
      exact ⟨_, List.mem_cons_self, because⟩

end Failing

/-! ## What is written down makes no difference -/

section Writing

theorem of_besideNotes {N α : Type} {x : SessionM I H α} {a : α} {s t : Session I (H × N)}
    (ran : besideNotes x s = .ok a t) : x s.withoutNotes = .ok a t.withoutNotes := by
  have left := after_besideNotes x s
  rw [after_of_ok ran] at left
  rw [eq_ok_of_answer ((answer_besideNotes x s).symm.trans (answer_of_ok ran)), left]
  rfl

variable {x : Transformer I H E V} {target : Target} {load : LoadContext E} {label reason : String}
  {h : Handle I} {seen : V → W} {t : Session I (H × List (Call (Handle I) E W))}

theorem FailsOn.of_writing (fails : FailsOn (x.writing h seen) target load label reason t) :
    FailsOn x target load label reason t.withoutNotes ∧
      ∃ earlier unit ballot, t.notes = earlier ++ [.transform h unit ballot] := by
  obtain ⟨pass, history, unit, s, u, v, labelled, voted, transformed⟩ := fails
  obtain ⟨_, _, noted, voted⟩ := bind_eq_ok voted
  cases noted
  obtain ⟨_, _, noted, transformed⟩ := bind_eq_ok transformed
  cases noted
  have bareVoted := of_besideNotes voted
  have bareTransformed := of_besideNotes transformed
  exact ⟨⟨pass, history, unit, _, _, _, of_besideNotes labelled, bareVoted, bareTransformed⟩,
    _, _, _, notes_of_besideNotes transformed⟩

theorem SessionM.ObeysIn.besideNotes {N α : Type} {name : String} {rule : TrailRule}
    {x : SessionM I H α} (hx : x.ObeysIn name rule) :
    (SessionM.besideNotes x : SessionM I (H × N) α).ObeysIn name rule := by
  intro s
  rw [after_besideNotes]
  exact hx s.withoutNotes

theorem obeysIn_note {N : Type} {name : String} {rule : TrailRule} (c : N) :
    (note c : SessionM I (H × List N) Unit).ObeysIn name rule := fun _ => rule.refl _

theorem Roster.writing_obeysIn {r : Roster I H E U} {name : String} {rule : TrailRule}
    (hr : r.AppliesWith (ObeysIn name rule)) : r.writing.AppliesWith (ObeysIn name rule) :=
  fun k i =>
    { label := (hr k i).label.besideNotes
      vote := fun ballot =>
        obeysIn_heritable.bind (obeysIn_note _) fun _ => ((hr k i).vote ballot).besideNotes
      transform := fun unit ballot =>
        obeysIn_heritable.bind (obeysIn_note _) fun _ =>
          ((hr k i).transform unit ballot).besideNotes }

end Writing

/-! ## Failed loads -/

section Failed

variable {r : Roster I H E U} {snapshot : Snapshot I} {load : LoadContext E} {k : Kind}
  {target other : Target} {unit : U k} {label reason : String}
  {s t : Session I (H × List (Call (Handle I) E (CodeUnit U)))}

theorem notes_after_record {N : Type} {trail? : Option String} {told : List Entry}
    (s : Session I (H × N)) : ((record trail? target told).after s).notes = s.notes := by
  cases trail? <;> rfl

theorem withoutNotes_record {N : Type} {trail? : Option String} {told : List Entry}
    (s : Session I (H × N)) : ((record trail? target told).after s).withoutNotes =
      (record trail? target told).after s.withoutNotes := by
  cases trail? <;> rfl

theorem calledInTurns_failed {handles : List (Handle I)} {before : List Turn} {place : Nat}
    {pass : Pass} :
    calledInTurns handles target load (before ++ [⟨place, pass, ⟨label, .failed⟩⟩]) =
      (calledInTurns handles target load before ++
          [.vote handles[place]? (.ofLoad target load pass (before.map (·.entry)))]) ++
        [.transform handles[place]? () (.ofLoad target load pass (before.map (·.entry)))] := by
  unfold calledInTurns
  rw [turnCalls_append, List.map_append, List.append_assoc]
  rfl

theorem attempt_failed (kind : target.kind = k)
    (ran : attempt (snapshot.transformers r.writing k target) unit target load s =
      .ok (.error (.failed other label reason)) t) :
    other = target ∧ ∃ before place pass h,
      let asked := (askQueue target load unit []
        ((snapshot.transformers r.writing k target).map (·, .first))).after s
      let turns := before ++ [⟨place, pass, ⟨label, .failed⟩⟩]
      (snapshot.handlesFor target)[place]? = some h ∧
        FailsOn (r.transformer h.kind h.id) target load label reason asked.withoutNotes ∧
        t = (record load.trail? target (turns.map (·.entry))).after asked ∧
        (∀ turn ∈ before, turn.outcome ≠ .failed) ∧
        WellTurned (snapshot.handlesFor target).length turns true ∧
        t.notes.map Call.heard = s.notes.map Call.heard ++
          calledInTurns (snapshot.handlesFor target) target load turns := by
  obtain ⟨turns, failed?, asked, calls, rounds, ends⟩ := attempt_calls kind (answer_of_ok ran)
  cases failed? with
  | none => exact ends.elim
  | some name =>
    obtain ⟨_, same⟩ := ends
    cases same
    obtain ⟨before, place, pass, rfl, sound⟩ := rounds.failed_last
    obtain ⟨q, hq, _, _, same, fails⟩ := askQueue_failed (eq_ok_of_answer asked)
    cases same
    obtain ⟨x, hx, rfl⟩ := List.mem_map.1 hq
    obtain ⟨i, hi, rfl⟩ := List.mem_map.1 hx
    have left := after_attempt asked
    rw [after_of_ok ran] at left
    rw [after_of_ok ran] at calls
    obtain ⟨fails, earlier, unit', ballot, last⟩ := fails.of_writing
    refine ⟨rfl, before, place, pass, ⟨k, i⟩, ?_, fails, left, sound, rounds.wellTurned, calls⟩
    -- What was written down last is at once the failure and the last turn.
    have final := congrArg List.getLast? calls
    rw [left, notes_after_record, last, List.map_append, List.map_singleton, List.getLast?_concat,
      calledInTurns_failed, ← List.append_assoc, List.getLast?_concat, Option.some.injEq] at final
    exact (Call.transform.inj final).1.symm

end Failed

/-- Of all that the trail tells, only what it tells last of one target is a failure. -/
structure Trail.FailsOnce (trail : Trail) (target : Target) (label : String) : Prop where
  last : ∃ told, trail.history target = told ++ [⟨label, .failed⟩] ∧ Sound told
  others : ∀ other, other ≠ target → Sound (trail.history other)

theorem Trail.Unfailed.failsOnce {trail : Trail} (h : trail.Unfailed) {target : Target}
    {label : String} {told : List Entry} (sound : Sound told) :
    (trail.record target (told ++ [⟨label, .failed⟩])).FailsOnce target label where
  last := by
    refine ⟨trail.history target ++ told, ?_, List.forall_mem_append.2 ⟨h target, sound⟩⟩
    rw [history_record_self, List.append_assoc]
  others other apart := by
    rw [history_record_of_ne _ _ apart]
    exact h other

theorem Trail.unfailed_empty : Trail.empty.Unfailed := fun _ => nofun

/-- What a failed attempt, after visits that came to their ends, leaves in the trail of its load. -/
theorem Walk.trail_of_failure {r : Roster I H E U} {snapshot : Snapshot I} {load : LoadContext E}
    {s u asked t : Session I H} {visits : List (Visit U)} (walk : Walk r snapshot load s visits u)
    {target : Target} {label name : String} {told : List Entry} (kept : load.trail? = some name)
    (allowed : ∀ {rule : TrailRule}, r.AppliesWith (ObeysIn name rule) →
      rule.allows (u.trails name) (asked.trails name))
    (sound : Sound told) (added : t.trails name =
      (asked.trails name).record target (told ++ [⟨label, .failed⟩])) :
    (r.AppliesWith (ObeysIn name unfailing) → (s.trails name).Unfailed →
      (t.trails name).FailsOnce target label) ∧
    (r.AppliesWith (ObeysIn name leftAlone) → t.trails name = (s.trails name).recordAll
      (visits.map Visit.telling ++ [(target, told ++ [⟨label, .failed⟩])])) := by
  rw [added]
  refine ⟨fun hr began => ?_, fun hr => ?_⟩
  · have unfailed := allowed hr (walk.unfailed hr kept began)
    exact unfailed.failsOnce sound
  · have alone := (allowed hr).trans (walk.trail hr kept)
    rw [alone, Trail.recordAll_append]
    rfl

variable [ClassShape U]

/-- A load that failed did so for one of the parts of its class, by a transformer that is registered
for it. Those registered for the parts before are done with, and nobody was called after the failure.
Of all that the trail tells, only that is a failure, if transformers leave none there themselves. -/
theorem load_stops_at_failure (r : Roster I H E U) (cls : U .cls) (load : LoadContext E)
    (s t : Session I H) (target : Target) (label reason : String)
    (failed : loadClass r cls load s = .ok (.error (.failed target label reason)) t) :
    let snapshot := s.store.snapshot
    ∃ (done : List (Target × List Turn)) (before : List Turn) (place : Nat) (pass : Pass)
      (h : Handle I) (asked : Session I H),
      let turns := before ++ [⟨place, pass, ⟨label, .failed⟩⟩]
      let taken := done ++ [(target, turns)]
      taken.map (·.1) <+: classTargets cls ∧
      target.owner = .ofText (ClassShape.name cls) ∧
      (snapshot.handlesFor target)[place]? = some h ∧
      FailsOn (r.transformer h.kind h.id) target load label reason asked ∧
      t = (record load.trail? target (turns.map (·.entry))).after asked ∧
      (∀ d ∈ done, WellTurned (snapshot.handlesFor d.1).length d.2 false) ∧
      WellTurned (snapshot.handlesFor target).length turns true ∧
      ((loadClass r.writing cls load).noted s).map Call.heard = calledFor snapshot load taken ∧
      ∀ name, load.trail? = some name →
        (t.trails name).history target = (asked.trails name).history target ++
          turns.map (·.entry) ∧
        (r.AppliesWith (ObeysIn name unfailing) → (s.trails name).Unfailed →
          (t.trails name).FailsOnce target label) ∧
        (r.AppliesWith (ObeysIn name leftAlone) →
          t.trails name = (s.trails name).recordAll (toldInTurns taken)) := by
  intro snapshot
  have inStep : r.InStep BesideNotes r.writing := fun k i => (r.transformer k i).inStep_writing ..
  obtain ⟨same, beside⟩ : Meet BesideNotes (loadClass r cls load) (loadClass r.writing cls load) s
      (s.withNotes []) := companions_besideNotes.loadClass inStep rfl rfl
  rw [answer_of_ok failed] at same
  rw [after_of_ok failed] at beside
  have broke : (loadClass r.writing cls load).BreaksOff (s.withNotes [])
      (.error (.failed target label reason)) _ := eq_ok_of_answer same.symm
  obtain ⟨visits, k, unit, other, u, kind, reached, walk, ran⟩ := loadClass_breaksOff broke
  obtain ⟨rfl, before, place, pass, h, there, fails, left, sound, turned, calls⟩ :=
    attempt_failed kind ran
  obtain ⟨done, tells, doneTurned, doneCalls⟩ := walk.calls
  have targets : done.map (·.1) = visits.map (·.target) := by
    have firsts := congrArg (List.map (·.1)) tells
    rwa [toldInTurns, List.map_map, List.map_map] at firsts
  subst beside
  refine ⟨done, before, place, pass, h, _, ?_, ?_, there, fails, ?_, doneTurned, turned, ?_, ?_⟩
  · rwa [List.map_append, targets]
  · exact owner_of_mem_classTargets _ (reached.subset (by simp))
  · rw [left, withoutNotes_record]
  · refine calls.trans ?_
    rw [doneCalls, calledFor, calledFor, List.flatMap_append, List.flatMap_singleton]
    rfl
  · intro name kept
    have added := congrArg (·.trails name) left
    rw [trail_after_record kept] at added
    have told := (congrArg (·.history target) added).trans (Trail.history_record_self ..)
    rw [List.map_append] at added
    obtain ⟨once, alone⟩ := walk.trail_of_failure kept
      (fun hr => obeysIn_heritable.ask_transformers hr u) (List.forall_mem_map.2 sound) added
    refine ⟨told, fun hr => once (Roster.writing_obeysIn hr), fun hr => ?_⟩
    refine (alone (Roster.writing_obeysIn hr)).trans ?_
    rw [← tells, toldInTurns_append, toldInTurns, toldInTurns, List.map_singleton, List.map_append]
    rfl

/-- Methods are refused, everything else is marked. -/
def brittle : Roster Nat Unit Unit PlainUnit where
  transformer k i :=
    { label := return toString i
      targets := return match k with
        | .cls => [.ofClass "a.B"]
        | .method => [.ofMethod "a.B" "m" "()V"]
        | .field => [.ofField "a.B" "f" "I"]
      vote := fun _ => return .yes
      transform := fun unit _ =>
        return if k = .method then .error "no" else .ok (PlainUnit.mark (toString i) k unit) }

/-- The second of two methods is not asked about any more, nor is the class. -/
theorem load_stops_at_failure_method :
    let m : PlainMember := { name := "m", descriptor := "()V" }
    let cls : PlainClass :=
      { name := "a/B", fields := [{ name := "f", descriptor := "I" }], methods := [m, m] }
    let load : LoadContext Unit := { trail? := some "audit" }
    let s₀ : Session Nat Unit := { store := .empty, host := () }
    let s₁ := (register brittle ⟨.field, 1⟩).after s₀
    let s₂ := (register brittle ⟨.method, 2⟩).after s₁
    let s := (register brittle ⟨.cls, 3⟩).after s₂
    let t := (loadClass brittle cls load).after s
    let method : Target := .ofMethod "a.B" "m" "()V"
    loadClass brittle cls load s = .ok (.error (.failed method "2" "no")) t ∧
      (t.trails "audit").FailsOnce method "2" ∧
      ((loadClass brittle.writing cls load).noted s).length = 4 := by
  intro m cls load s₀ s₁ s₂ s t method
  have failed : loadClass brittle cls load s = .ok (.error (.failed method "2" "no")) t :=
    eq_ok_of_answer (by decide +kernel)
  have spares : brittle.AppliesWith (ObeysIn "audit" unfailing) := fun _ _ =>
    ⟨obeysIn_heritable.pure _, fun _ => obeysIn_heritable.pure _,
      fun _ _ => obeysIn_heritable.pure _⟩
  obtain ⟨done, before, place, pass, h, asked, -, -, -, -, -, -, -, -, trail⟩ :=
    load_stops_at_failure brittle cls load s t method "2" "no" failed
  obtain ⟨-, once, -⟩ := trail "audit" rfl
  have silent : s.trails "audit" = .empty := by decide +kernel
  exact ⟨failed, once spares (silent ▸ Trail.unfailed_empty), by decide +kernel⟩

end TransformRegistry
