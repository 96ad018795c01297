import TransformRegistry.Proofs.Accepted
import TransformRegistry.Proofs.Visits
import TransformRegistry.Proofs.Watching

/-!
# Requests that crash

Where a transformer crashes, so does the request that called it, at once. What is left of it is what
transformers did themselves, and of a load what the trail was told of visits that had come to their
ends. Nothing that was being worked on gets into the store or into the trail.
-/

namespace TransformRegistry

variable {I H E α β : Type} {U : Kind → Type} {name : String}

open SessionM

/-! ## Where a call crashed -/

section Crashing

variable {r : Roster I H E U} {s t : Session I H} {c : Crash} {load : LoadContext E}

/-- An attempt crashes while it asks, before anything is told. -/
theorem attempt_crashed {V : Type} {sequence : List (Transformer I H E V)} {unit : V}
    {target : Target} (crashed : attempt sequence unit target load s = .error c t) :
    askQueue target load unit [] (sequence.map (·, .first)) s = .error c t := by
  unfold attempt at crashed
  split at crashed
  · cases crashed
  rcases bind_eq_error crashed with asking | ⟨told, u, -, crashed⟩
  · exact asking
  rcases bind_eq_error crashed with recording | ⟨_, v, -, crashed⟩
  · cases h : load.trail? <;> rw [h] at recording <;> cases recording
  · cases crashed

theorem transformUnit_crashed {k : Kind} {unit : U k} {target : Target}
    (crashed : transformUnit r k unit target load s = .error c t) :
    target.kind = k ∧ askQueue target load unit []
      ((s.store.snapshot.transformers r k target).map (·, .first)) s = .error c t := by
  by_cases kind : target.kind = k
  · rw [transformUnit_eq_attempt r kind] at crashed
    exact ⟨kind, attempt_crashed crashed⟩
  · unfold transformUnit at crashed
    rw [if_pos kind] at crashed
    cases crashed

theorem transformAny_crashed {u : CodeUnit U} {target : Target}
    (crashed : transformAny r u target load s = .error c t) :
    transformUnit r u.kind u.unit target load s = .error c t := by
  rcases bind_eq_error crashed with here | ⟨result, v, -, crashed⟩
  · exact here
  · cases result <;> cases crashed

theorem loadClass_crashed [ClassShape U] {cls : U .cls}
    (crashed : loadClass r cls load s = .error c t) :
    ∃ (visits : List (Visit U)) (k : Kind) (unit : U k) (target : Target) (u : Session I H),
      target.kind = k ∧ visits.map (·.target) ++ [target] <+: classTargets cls ∧
      Walk r s.store.snapshot load s visits u ∧
      askQueue target load unit []
        ((s.store.snapshot.transformers r k target).map (·, .first)) u = .error c t := by
  have broke : (loadClass r cls load).BreaksOff s (.crash c) t := crashed
  obtain ⟨visits, k, unit, target, u, kind, reached, walk, broke⟩ := loadClass_breaksOff broke
  exact ⟨visits, k, unit, target, u, kind, reached, walk, attempt_crashed broke⟩

end Crashing

/-! ## What is left -/

/-- Transformers leave the trail alone whenever they are called. -/
structure Roster.SparesTrail (r : Roster I H E U) (name : String) : Prop where
  applies : r.AppliesWith (ObeysIn name leftAlone)
  declares : r.DeclaresWith (ObeysIn name leftAlone)

/-- All that is left of a request that crashed is what transformers did to the store and the host,
and what was told to the trail. Later requests find that, and nothing else. -/
structure Request.Leaves [DecidableEq I] [ClassShape U] (q : Request I H E U) (r : Roster I H E U)
    (name : String) (s : Session I H) (told : Telling) (t : Session I H) : Prop where
  store : ∀ rule : StoreRule I, r.Under rule → rule.allows s.store t.store
  trail : t.trails name = (s.trails name).recordAll told
  later : ∀ later : List (Request I H E U), runAll r (q :: later) s = runAll r later t

/-- The telling, if it is this trail that the load keeps. -/
def LoadContext.toldTo (load : LoadContext E) (name : String) (told : Telling) : Telling :=
  if load.trail? = some name then told else []

section Leaving

variable {r : Roster I H E U} {s t : Session I H} {c : Crash} {load : LoadContext E}

theorem SessionM.Obeys.of_error {rule : StoreRule I} {x : SessionM I H α} (hx : x.Obeys rule)
    (crashed : x s = .error c t) : rule.allows s.store t.store := by
  rw [← after_of_error crashed]
  exact hx s

theorem SessionM.ObeysIn.of_error {rule : TrailRule} {x : SessionM I H α} (hx : x.ObeysIn name rule)
    (crashed : x s = .error c t) : rule.allows (s.trails name) (t.trails name) := by
  rw [← after_of_error crashed]
  exact hx s

theorem Walk.trail_of_ne {snapshot : Snapshot I} {visits : List (Visit U)}
    (walk : Walk r snapshot load s visits t) (hr : r.AppliesWith (ObeysIn name leftAlone))
    (other : load.trail? ≠ some name) : t.trails name = s.trails name := by
  induction walk with
  | stay => rfl
  | @visit s t u v rest visited _ ih =>
    have asked : ((v.ask r snapshot load).after s).trails name = s.trails name :=
      obeysIn_heritable.ask_transformers hr s
    rw [ih, ← asked, visited.left]
    cases kept : load.trail? with
    | none => rfl
    | some found =>
      rw [after_of_ok (record_some_apply ..)]
      exact Trails.set_of_ne _ _ fun same => other (by rw [kept, same])

theorem Walk.trail_toldTo {snapshot : Snapshot I} {visits : List (Visit U)}
    (walk : Walk r snapshot load s visits t) (hr : r.AppliesWith (ObeysIn name leftAlone)) :
    t.trails name = (s.trails name).recordAll (load.toldTo name (visits.map Visit.telling)) := by
  unfold LoadContext.toldTo
  split
  · next kept => exact walk.trail hr kept
  · next other => exact walk.trail_of_ne hr other

variable [DecidableEq I] [ClassShape U]

theorem Request.runAll_crashed {q : Request I H E U} {x : SessionM I H α}
    (run : q.run r = discard x) (crashed : x s = .error c t) (later : List (Request I H E U)) :
    runAll r (q :: later) s = runAll r later t := by
  change runAll r later ((q.run r).after s) = _
  rw [run, after_discard, after_of_error crashed]

theorem Request.leaves_of_asking (spares : r.SparesTrail name) {q : Request I H E U}
    {x : SessionM I H α} (run : q.run r = discard x) (crashed : x s = .error c t) {k : Kind}
    {unit : U k} {target : Target} (asking : askQueue target load unit []
      ((s.store.snapshot.transformers r k target).map (·, .first)) s = .error c t) :
    q.Leaves r name s [] t where
  store _ hr := (obeys_heritable.ask_transformers hr.applies.heritable).of_error asking
  trail := (obeysIn_heritable.ask_transformers spares.applies).of_error asking
  later := runAll_crashed run crashed

end Leaving

/-- Wherever a transformer crashes, what is left of the request is what transformers did themselves.
A registration has put nothing into the store, however far it had got, and an attempt has told
nothing to the trail. A load has told it of the visits that had come to their ends. Requests that
follow find nothing else. -/
theorem crash_leaves [DecidableEq I] [ClassShape U] (r : Roster I H E U) (name : String)
    (spares : r.SparesTrail name) (s t : Session I H) (c : Crash) :
    (∀ h, register r h s = .error c t →
      introduce r h s = .error c t ∧
      (Request.operation (.register h)).Leaves r name s [] t) ∧
    (∀ h declared, registerFor r h declared s = .error c t →
      consult r h declared s = .error c t ∧
      (∀ rule : StoreRule I, r.Under rule → rule.allows s.store t.store) ∧
      t.trails name = s.trails name) ∧
    (∀ k unit target load, transformUnit r k unit target load s = .error c t →
      target.kind = k ∧
      askQueue target load unit [] ((s.store.snapshot.transformers r k target).map (·, .first)) s =
        .error c t ∧
      (Request.transformUnit k unit target load).Leaves r name s [] t) ∧
    (∀ u target load, transformAny r u target load s = .error c t →
      target.kind = u.kind ∧
      askQueue target load u.unit []
        ((s.store.snapshot.transformers r u.kind target).map (·, .first)) s = .error c t ∧
      (Request.operation (.transform u target load)).Leaves r name s [] t) ∧
    ∀ cls load, loadClass r cls load s = .error c t →
      ∃ (visits : List (Visit U)) (k : Kind) (unit : U k) (target : Target) (u : Session I H),
        target.kind = k ∧ visits.map (·.target) ++ [target] <+: classTargets cls ∧
        Walk r s.store.snapshot load s visits u ∧
        askQueue target load unit []
          ((s.store.snapshot.transformers r k target).map (·, .first)) u = .error c t ∧
        (Request.operation (.loadClass cls load)).Leaves r name s
          (load.toldTo name (visits.map Visit.telling)) t := by
  refine ⟨fun h crashed => ?_, fun h declared crashed => ?_, fun k unit target load crashed => ?_,
    fun u target load crashed => ?_, fun cls load crashed => ?_⟩
  · have introducing := register_eq_error_iff.1 crashed
    refine ⟨introducing, fun _ hr => ?_, ?_, Request.runAll_crashed rfl crashed⟩
    · exact (introduce_obeys hr.declares h).of_error introducing
    · exact (obeysIn_heritable.introduce obeysIn_crashes spares.declares).of_error introducing
  · have consulting := registerFor_eq_error_iff.1 crashed
    refine ⟨consulting, fun _ hr => ?_, ?_⟩
    · have labels := hr.declares.heritable.label h
      exact (obeys_heritable.consult obeys_crashes labels).of_error consulting
    · have labels := spares.declares.label h
      exact (obeysIn_heritable.consult obeysIn_crashes labels).of_error consulting
  · obtain ⟨kind, asking⟩ := transformUnit_crashed crashed
    exact ⟨kind, asking, Request.leaves_of_asking spares rfl crashed asking⟩
  · obtain ⟨kind, asking⟩ := transformUnit_crashed (transformAny_crashed crashed)
    exact ⟨kind, asking, Request.leaves_of_asking spares rfl crashed asking⟩
  · obtain ⟨visits, k, unit, target, u, kind, reached, walk, asking⟩ := loadClass_crashed crashed
    refine ⟨visits, k, unit, target, u, kind, reached, walk, asking, fun _ hr => ?_, ?_,
      Request.runAll_crashed rfl crashed⟩
    · exact (obeys_heritable.loadClass obeys_records hr.applies.heritable).of_error crashed
    · have alone := (obeysIn_heritable.ask_transformers spares.applies).of_error asking
      exact alone.trans (walk.trail_toldTo spares.applies)

/-- A label that is given twice. -/
def givenTwice (label : String) : SessionM Nat Nat String := do
  let before := (← get).host
  modify fun s => { s with host := before + 1 }
  if before = 2 then crash ⟨some "spent"⟩ else return label

/-- The seventh has no more than two labels to give, the eighth crashes when it is asked for its
targets, the ninth when it is applied. -/
def fragile : Roster Nat Nat Unit PlainUnit where
  transformer k i :=
    { label := if i = 7 then givenTwice "7" else return toString i
      targets := if i = 8 then crash ⟨some "torn"⟩
        else return match i with
          | 1 => [.ofField "a.B" "f" "I"]
          | 7 => [.ofClass "a.C", .ofClass "a.B"]
          | _ => [.ofField "a.B" "g" "I"]
      vote := fun _ => return .yes
      transform := fun unit _ => if i = 9 then crash ⟨some "worn"⟩
        else return .ok (PlainUnit.mark (toString i) k unit) }

theorem after_crash_or {P : Prop} [Decidable P] (c : Crash) (a : α) (s : Session I H) :
    (if P then crash c else return a : SessionM I H α).after s = s := by
  split <;> rfl

theorem after_givenTwice (label : String) (s : Session Nat Nat) :
    (givenTwice label).after s = { s with host := s.host + 1 } :=
  after_crash_or ..

theorem fragile_label (h : Handle Nat) (s : Session Nat Nat) :
    ((fragile.label h).after s).store = s.store ∧ ((fragile.label h).after s).trails = s.trails := by
  by_cases seventh : h.id = 7
  · simp [fragile, Roster.label, seventh, after_givenTwice]
  · simp [fragile, Roster.label, seventh, after]

theorem fragile_targets (h : Handle Nat) (s : Session Nat Nat) :
    (fragile.targets h).after s = s := after_crash_or ..

theorem fragile_transform {k : Kind} {i : Nat} (unit : PlainUnit k) (ballot : Ballot Unit)
    (s : Session Nat Nat) : ((fragile.transformer k i).transform unit ballot).after s = s :=
  after_crash_or ..

theorem fragile_spares : fragile.SparesTrail "audit" where
  applies k i :=
    { label := fun s => congrFun (fragile_label ⟨k, i⟩ s).2 "audit"
      vote := fun _ => obeysIn_heritable.pure _
      transform := fun unit ballot s =>
        congrFun (congrArg Session.trails (fragile_transform unit ballot s)) "audit" }
  declares :=
    { label := fun h s => congrFun (fragile_label h s).2 "audit"
      targets := fun h s =>
        congrFun (congrArg Session.trails (fragile_targets h s)) "audit" }

theorem fragile_under : fragile.Under unchanged where
  applies k i :=
    { label := fun s => (fragile_label ⟨k, i⟩ s).1
      vote := fun _ => obeys_pure _
      transform := fun unit ballot s => congrArg Session.store (fragile_transform unit ballot s) }
  declares :=
    { label := fun h s => (fragile_label h s).1
      targets := fun h s => congrArg Session.store (fragile_targets h s) }

/-- The trail is told of the first field, and not of the second, though it had its first mark. Two
registrations crash afterwards, one of them at a repeat that comes after a new target. -/
theorem crash_leaves_fragile :
    let f : PlainMember := { name := "f", descriptor := "I" }
    let g : PlainMember := { name := "g", descriptor := "I" }
    let cls : PlainClass := { name := "a/B", fields := [f, g] }
    let load : LoadContext Unit := { trail? := some "audit" }
    let s₀ : Session Nat Nat := { store := .empty { repeats := .ignore }, host := 0 }
    let s₁ := (register fragile ⟨.field, 1⟩).after s₀
    let s₂ := (register fragile ⟨.field, 2⟩).after s₁
    let s₃ := (registerFor fragile ⟨.cls, 7⟩ [.ofClass "a.B"]).after s₂
    let s := (register fragile ⟨.field, 9⟩).after s₃
    let t := (loadClass fragile cls load).after s
    let u := (register fragile ⟨.field, 8⟩).after t
    let v := (register fragile ⟨.cls, 7⟩).after u
    (loadClass fragile cls load).answer s = .error ⟨some "worn"⟩ ∧
      (register fragile ⟨.field, 8⟩).answer t = .error ⟨some "torn"⟩ ∧
      (register fragile ⟨.cls, 7⟩).answer u = .error ⟨some "spent"⟩ ∧
      v.store = s.store ∧
      (v.trails "audit").history (.ofField "a.B" "f" "I") = [⟨"1", .applied⟩] ∧
      (v.trails "audit").history (.ofField "a.B" "g" "I") = [] ∧
      ∀ later : List (Request Nat Nat Unit PlainUnit),
        Request.runAll fragile
          (.operation (.loadClass cls load) :: .operation (.register ⟨.field, 8⟩) ::
            .operation (.register ⟨.cls, 7⟩) :: later) s =
          Request.runAll fragile later v := by
  intro f g cls load s₀ s₁ s₂ s₃ s t u v
  obtain ⟨worn, torn, spent, first, second⟩ :
      (loadClass fragile cls load).answer s = .error ⟨some "worn"⟩ ∧
        (register fragile ⟨.field, 8⟩).answer t = .error ⟨some "torn"⟩ ∧
        (register fragile ⟨.cls, 7⟩).answer u = .error ⟨some "spent"⟩ ∧
        (t.trails "audit").history (.ofField "a.B" "f" "I") = [⟨"1", .applied⟩] ∧
        (t.trails "audit").history (.ofField "a.B" "g" "I") = [] := by
    decide +kernel
  have loading : loadClass fragile cls load s = .error ⟨some "worn"⟩ t := eq_error_of_answer worn
  have registering : register fragile ⟨.field, 8⟩ t = .error ⟨some "torn"⟩ u :=
    eq_error_of_answer torn
  have repeating : register fragile ⟨.cls, 7⟩ u = .error ⟨some "spent"⟩ v :=
    eq_error_of_answer spent
  -- What the sessions are has served its purpose.
  clear_value v u t s
  obtain ⟨-, -, -, -, loads⟩ := crash_leaves fragile "audit" fragile_spares s t ⟨some "worn"⟩
  obtain ⟨visits, -, -, -, -, -, -, -, -, loaded⟩ := loads cls load loading
  obtain ⟨registers, -⟩ := crash_leaves fragile "audit" fragile_spares t u ⟨some "torn"⟩
  obtain ⟨-, registered⟩ := registers ⟨.field, 8⟩ registering
  obtain ⟨repeats, -⟩ := crash_leaves fragile "audit" fragile_spares u v ⟨some "spent"⟩
  obtain ⟨-, repeated⟩ := repeats ⟨.cls, 7⟩ repeating
  have store : u.store = s.store :=
    (registered.store unchanged fragile_under).trans (loaded.store unchanged fragile_under)
  have trail : v.trails "audit" = t.trails "audit" := repeated.trail.trans registered.trail
  rw [trail]
  refine ⟨worn, torn, spent, ?_, first, second, fun later => ?_⟩
  · exact (repeated.store unchanged fragile_under).trans store
  · rw [loaded.later, registered.later, repeated.later]

end TransformRegistry
