import TransformRegistry.Proofs.Failures
import TransformRegistry.Proofs.Memberwise

/-!
# What the set of targets says of an application

The loader looks a target up in a set, and an application looks it up in the index of its kind. The
two go together: transformers are asked for exactly those targets that are in the set, and a unit
of any other target comes back as it was.
-/

namespace TransformRegistry

variable {I H E : Type} {U : Kind → Type}

open SessionM

/-! ## Somebody is asked -/

theorem Round.ne_nil {pass : Pass} {places : List Nat} {turns : List Turn}
    {failed? : Option String} (round : Round pass places turns failed?) (some : places ≠ []) :
    turns ≠ [] := by
  cases round with
  | done => exact absurd rfl some
  | next => exact List.cons_ne_nil _ _
  | stop => exact List.cons_ne_nil _ _

theorem TwoRounds.ne_nil {places : List Nat} {turns : List Turn} {failed? : Option String}
    (rounds : TwoRounds places turns failed?) (some : places ≠ []) : turns ≠ [] := by
  cases rounds with
  | broken first => exact first.ne_nil some
  | both first second => exact List.append_ne_nil_of_left_ne_nil (first.ne_nil some) _

theorem vote_of_turns {handles : List (Handle I)} {target : Target} {load : LoadContext E}
    {turns : List Turn} (some : turns ≠ []) :
    ∃ who ballot, Call.vote who ballot ∈ calledInTurns handles target load turns := by
  obtain ⟨t, rest, rfl⟩ := List.exists_cons_of_ne_nil some
  refine ⟨handles[t.place]?, .ofLoad target load t.pass [], ?_⟩
  refine List.mem_map.2 ⟨.vote t.place (.ofLoad target load t.pass []), ?_, rfl⟩
  rw [turnCalls, List.mem_append]
  left
  unfold Turn.calls
  split <;> simp

theorem vote_of_heard {V : Type} {calls : List (Call (Handle I) E V)}
    (heard : ∃ who ballot, Call.vote who ballot ∈ calls.map Call.heard) :
    ∃ who ballot, Call.vote who ballot ∈ calls := by
  obtain ⟨who, ballot, heard⟩ := heard
  obtain ⟨c, hc, same⟩ := List.mem_map.1 heard
  cases c with
  | vote h shown => exact ⟨h, shown, hc⟩
  | transform h unit shown => cases same

section Attempts

variable {r : Roster I H E U} {snapshot : Snapshot I} {load : LoadContext E} {k : Kind}
  {target : Target} {unit : U k} {s : Session I H}

/-- The transformers of a sequence are asked, unless there are none. -/
theorem attempt_asks (kind : target.kind = k) {result : Except TransformError (U k)}
    (ended : (attempt (snapshot.transformers r k target) unit target load).answer s =
      .ok result) (some : snapshot.handlesFor target ≠ []) :
    ∃ who ballot, Call.vote who ballot ∈
      (attempt (snapshot.transformers r.writing k target) unit target load).noted s := by
  have alike : r.InStep BesideNotes r.writing := fun k i => (r.transformer k i).inStep_writing _ _
  have step : SessionM.InStep BesideNotes
      (attempt (snapshot.transformers r k target) unit target load)
      (attempt (snapshot.transformers r.writing k target) unit target load) :=
    companions_besideNotes.attempt_transformers (alike k)
  obtain ⟨same, -⟩ := step s (s.withNotes []) rfl
  obtain ⟨turns, failed?, -, calls, rounds, -⟩ := attempt_calls kind (same.symm.trans ended)
  have asked : List.range (snapshot.handlesFor target).length ≠ [] := by simpa using some
  refine vote_of_heard ?_
  rw [noted, calls]
  exact vote_of_turns (rounds.ne_nil asked)

theorem failed_of_attempt {V : Type} {sequence : List (Transformer I H E V)} {unit : V}
    {e : TransformError} (ended : (attempt sequence unit target load).answer s = .ok (.error e)) :
    ∃ label reason, e = .failed target label reason := by
  obtain ⟨turns, failed?, -, -, -, ends⟩ := attempt_turns ended
  cases failed? with
  | none => exact ends.elim
  | some label =>
    obtain ⟨reason, because⟩ := ends
    exact ⟨label, reason, because⟩

theorem attempt_of_nobody (kind : target.kind = k) (nobody : snapshot.handlesFor target = []) :
    attempt (snapshot.transformers r k target) unit target load =
      (return .ok unit : SessionM I H (Except TransformError (U k))) := by
  have empty : (snapshot.transformers r k target).isEmpty = true := by
    rw [transformers_isEmpty snapshot r kind, nobody]
    rfl
  rw [attempt, if_pos empty]

end Attempts

/-! ## Units of any kind -/

section Units

variable {r : Roster I H E U} {u : CodeUnit U} {target : Target} {load : LoadContext E}
  {s : Session I H}

theorem transformAny_eq (r : Roster I H E U) (u : CodeUnit U) (target : Target)
    (load : LoadContext E) :
    transformAny r u target load =
      Except.map (CodeUnit.mk u.kind) <$> transformUnit r u.kind u.unit target load := by
  rw [transformAny, ← bind_pure_comp]
  refine bind_congr fun result => ?_
  cases result <;> rfl

theorem transformUnit_of_ne {k : Kind} {unit : U k} (other : target.kind ≠ k) :
    transformUnit r k unit target load =
      (return .error (.wrongUnit target k) : SessionM I H (Except TransformError (U k))) := by
  rw [transformUnit, if_pos other]

theorem noted_transformAny (r : Roster I H E U) (u : CodeUnit U) (target : Target)
    (load : LoadContext E) (s : Session I H) :
    (transformAny r.writing u target load).noted s =
      (transformUnit r.writing u.kind u.unit target load).noted s := by
  unfold noted
  rw [transformAny_eq, after_map]

theorem noted_transformUnit (kind : target.kind = u.kind) :
    (transformUnit r.writing u.kind u.unit target load).noted s =
      (attempt (s.store.snapshot.transformers r.writing u.kind target) u.unit target load).noted s :=
  noted_congr (transformUnit_eq_attempt r.writing (s := s.withNotes []) kind)

variable [DecidableEq I]

/-- An application of a unit of another kind is refused before anybody is asked. Otherwise it ends
with a unit of that kind or with a failure, and somebody is asked just if the target is in the set
when it begins. If it is not, nothing at all has happened. -/
theorem transform_precheck (r : Roster I H E U) (ends : r.AppliesWith Ends) (u : CodeUnit U)
    (target : Target) (load : LoadContext E) (s : Session I H) (reachable : s.store.Reachable) :
    (target.kind ≠ u.kind →
      transformAny r u target load s = .ok (.error (.wrongUnit target u.kind)) s ∧
      transformUnit r u.kind u.unit target load s = .ok (.error (.wrongUnit target u.kind)) s ∧
      (transformAny r.writing u target load).noted s = [] ∧
      (transformUnit r.writing u.kind u.unit target load).noted s = []) ∧
    (target.kind = u.kind →
      transformAny r u target load s =
        (Except.map (CodeUnit.mk u.kind) <$> transformUnit r u.kind u.unit target load) s ∧
      (transformAny r.writing u target load).noted s =
        (transformUnit r.writing u.kind u.unit target load).noted s ∧
      (∃ result t, transformAny r u target load s = .ok result t ∧
        ((∃ unit, result = .ok ⟨u.kind, unit⟩) ∨
          ∃ label reason, result = .error (.failed target label reason))) ∧
      ((∃ who ballot,
          Call.vote who ballot ∈ (transformAny r.writing u target load).noted s) ↔
        s.store.snapshot.isTargeted target = true) ∧
      (s.store.snapshot.isTargeted target = false →
        transformAny r u target load s = .ok (.ok u) s)) := by
  have handles := reachable.consistent.isTargeted_iff_handlesFor (t := target)
  constructor
  · intro other
    rw [noted_transformAny, transformAny_eq, transformUnit_of_ne other]
    have nobody : (transformUnit r.writing u.kind u.unit target load).noted s = [] := by
      rw [transformUnit_of_ne other]
      rfl
    exact ⟨rfl, rfl, nobody, nobody⟩
  · intro kind
    have same := transformAny_eq r u target load
    have unit : transformUnit r u.kind u.unit target load s =
        attempt (s.store.snapshot.transformers r u.kind target) u.unit target load s :=
      transformUnit_eq_attempt r kind
    obtain ⟨result, ended⟩ : ∃ result, (transformUnit r u.kind u.unit target load).answer s =
        .ok result := ends_heritable.transformUnit ends_records ends s
    have tried : (attempt (s.store.snapshot.transformers r u.kind target) u.unit target
        load).answer s = .ok result := by
      rw [← ended, answer, answer, unit]
    refine ⟨by rw [same], noted_transformAny .., ?_, ?_, fun absent => ?_⟩
    · refine ⟨result.map (CodeUnit.mk u.kind),
        (transformUnit r u.kind u.unit target load).after s, ?_, ?_⟩
      · rw [same, map_apply, eq_ok_of_answer ended]
      · cases result with
        | ok next => exact .inl ⟨next, rfl⟩
        | error e =>
          obtain ⟨label, reason, rfl⟩ := failed_of_attempt tried
          exact .inr ⟨label, reason, rfl⟩
    · rw [noted_transformAny, noted_transformUnit kind, handles]
      refine ⟨fun asked nobody => ?_, attempt_asks kind tried⟩
      rw [attempt_of_nobody kind nobody] at asked
      obtain ⟨who, ballot, none⟩ := asked
      cases none
    · have nobody : s.store.snapshot.handlesFor target = [] := by
        by_contra some
        rw [handles.2 some] at absent
        cases absent
      rw [same, map_apply, unit, attempt_of_nobody kind nobody]
      rfl

end Units

theorem marking_ends (targets : Handle Nat → SessionM Nat Unit (List Target)) :
    (Roster.marking targets).AppliesWith Ends := fun _ _ =>
  { label := ends_heritable.pure _
    vote := fun _ => ends_heritable.pure _
    transform := fun _ _ => ends_heritable.pure _ }

/-- A field is registered, and its class is not. The field is transformed, though not as its class,
and the class is left alone. -/
theorem transform_precheck_fieldwise :
    let s₀ : Session Nat Unit := { store := .empty, host := () }
    let s := (register fieldwise ⟨.field, 1⟩).after s₀
    let f : CodeUnit PlainUnit := ⟨.field, { name := "f", descriptor := "I" }⟩
    let c : CodeUnit PlainUnit := ⟨.cls, { name := "a/B" }⟩
    (∃ who ballot, Call.vote who ballot ∈
        (transformAny fieldwise.writing f (.ofField "a.B" "f" "I") {}).noted s) ∧
      transformAny fieldwise f (.ofClass "a.B") {} s =
        .ok (.error (.wrongUnit (.ofClass "a.B") .field)) s ∧
      transformAny fieldwise c (.ofClass "a.B") {} s = .ok (.ok c) s := by
  intro s₀ s f c
  have declares : fieldwise.DeclaresUnder growth :=
    (Roster.marking_under fun _ => obeys_pure _).declares
  have reachable : s.store.Reachable :=
    (Store.reachable_empty {}).grow (register_obeys growth_allowsChanges declares s₀)
  have ends : fieldwise.AppliesWith Ends := marking_ends _
  have field := (transform_precheck fieldwise ends f (.ofField "a.B" "f" "I") {} s reachable).2 rfl
  have wrong := (transform_precheck fieldwise ends f (.ofClass "a.B") {} s reachable).1 (by decide)
  have cls := (transform_precheck fieldwise ends c (.ofClass "a.B") {} s reachable).2 rfl
  exact ⟨field.2.2.2.1.2 (by decide +kernel), wrong.1, cls.2.2.2.2 (by decide +kernel)⟩

end TransformRegistry
