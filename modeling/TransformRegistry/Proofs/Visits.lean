import TransformRegistry.Proofs.Auditing

/-!
# A load, visit by visit

A load visits its units one after another, each with one attempt. Where it breaks off, every visit
before has come to its end, and there is none after. A trail that transformers leave alone tells of
the visits that came to an end, and of nothing else.
-/

namespace TransformRegistry

variable {I H E α β : Type} {U : Kind → Type}

open SessionM

/-! ## Breaking off -/

/-- How a call can end that has no unit to give. -/
inductive BreakOff where
  | error (e : TransformError)
  | crash (c : Crash)

/-- Where the call leaves the session. -/
def BreakOff.result (s : Session I H) :
    BreakOff → EStateM.Result Crash (Session I H) (Except TransformError α)
  | .error e => .ok (.error e) s
  | .crash c => .error c s

namespace SessionM

def BreaksOff (x : SessionM I H (Except TransformError α)) (s : Session I H) (why : BreakOff)
    (t : Session I H) : Prop :=
  x s = why.result t

theorem not_breaksOff {x : SessionM I H (Except TransformError α)} {a : α} {s t u : Session I H}
    {why : BreakOff} (ran : x s = .ok (.ok a) u) : ¬x.BreaksOff s why t := by
  intro broke
  cases why <;> cases ran.symm.trans broke

theorem BreaksOff.of_bind {x : SessionM I H (Except TransformError α)}
    {f : Except TransformError α → SessionM I H (Except TransformError β)} {s t : Session I H}
    {why : BreakOff} (broke : (x >>= f).BreaksOff s why t)
    (stops : ∀ e, f (.error e) = return .error e) :
    x.BreaksOff s why t ∨ ∃ a u, x s = .ok (.ok a) u ∧ (f (.ok a)).BreaksOff u why t := by
  unfold BreaksOff at broke ⊢
  rw [bind_apply] at broke
  cases ran : x s with
  | error c u =>
    rw [ran] at broke
    cases why <;> cases broke
    exact .inl rfl
  | ok result u =>
    rw [ran] at broke
    cases result with
    | error e =>
      simp only [stops] at broke
      cases why <;> cases broke
      exact .inl rfl
    | ok a => exact .inr ⟨a, u, rfl, broke⟩

end SessionM

/-! ## Visits -/

/-- A unit before and after an attempt, and the history of the attempt. -/
structure Change (V : Type) where
  unit : V
  next : V
  told : List Entry

structure Visit (U : Kind → Type) where
  target : Target
  kind : Kind
  change : Change (U kind)

/-- The visits to members. -/
def visitsTo (k : Kind) (targetOf : U k → Target) (changes : List (Change (U k))) :
    List (Visit U) :=
  changes.map fun c => ⟨targetOf c.unit, k, c⟩

theorem target_visitsTo (k : Kind) (targetOf : U k → Target) (changes : List (Change (U k))) :
    (visitsTo k targetOf changes).map (·.target) = (changes.map (·.unit)).map targetOf := by
  simp [visitsTo]

section Walks

variable (r : Roster I H E U) (snapshot : Snapshot I) (load : LoadContext E)

/-- The attempt of a visit. -/
def Visit.attempt (v : Visit U) : SessionM I H (Except TransformError (U v.kind)) :=
  TransformRegistry.attempt (snapshot.transformers r v.kind v.target) v.change.unit v.target load

/-- What is asked in a visit. -/
def Visit.ask (v : Visit U) : SessionM I H (Except TransformError (U v.kind) × List Entry) :=
  askQueue v.target load v.change.unit []
    ((snapshot.transformers r v.kind v.target).map (·, .first))

/-- The attempt of the visit came to its end. -/
structure Visited (s : Session I H) (v : Visit U) (t : Session I H) : Prop where
  kind : v.target.kind = v.kind
  ran : v.attempt r snapshot load s = .ok (.ok v.change.next) t
  asked : (v.ask r snapshot load).answer s = .ok (.ok v.change.next, v.change.told)

/-- From one session to the other, these visits came to their ends, one after another. -/
inductive Walk : Session I H → List (Visit U) → Session I H → Prop
  | stay (s : Session I H) : Walk s [] s
  | visit {s t u : Session I H} {v : Visit U} {rest : List (Visit U)} :
      Visited r snapshot load s v t → Walk t rest u → Walk s (v :: rest) u

variable {r snapshot load} {s t u : Session I H}

theorem Walk.append {first next : List (Visit U)} (hf : Walk r snapshot load s first t)
    (hn : Walk r snapshot load t next u) : Walk r snapshot load s (first ++ next) u := by
  induction hf with
  | stay => exact hn
  | visit visited _ ih => exact .visit visited (ih hn)

theorem Walk.visited {visits : List (Visit U)} (walk : Walk r snapshot load s visits t)
    {v : Visit U} (hv : v ∈ visits) : ∃ u w, Visited r snapshot load u v w := by
  induction walk with
  | stay => cases hv
  | visit visited _ ih =>
    rcases List.mem_cons.1 hv with rfl | later
    · exact ⟨_, _, visited⟩
    · exact ih later

theorem exists_visited {k : Kind} {target : Target} {unit next : U k}
    (ran : attempt (snapshot.transformers r k target) unit target load s = .ok (.ok next) t)
    (kind : target.kind = k) :
    ∃ told, Visited r snapshot load s ⟨target, k, unit, next, told⟩ t := by
  obtain ⟨told, asked⟩ := askQueue_of_attempt (answer_of_ok ran)
  exact ⟨told, kind, ran, asked⟩

end Walks

/-! ## Members -/

section Members

variable {r : Roster I H E U} {snapshot : Snapshot I} {load : LoadContext E} {k : Kind}
  {targetOf : U k → Target} {members nexts : List (U k)} {s t : Session I H}

theorem transformMembers_visits
    (ran : transformMembers r snapshot load k targetOf members s = .ok (.ok nexts) t)
    (kinds : ∀ member, (targetOf member).kind = k) :
    ∃ changes, members = changes.map (·.unit) ∧ nexts = changes.map (·.next) ∧
      Walk r snapshot load s (visitsTo k targetOf changes) t := by
  induction members generalizing nexts s with
  | nil =>
    cases ran
    exact ⟨[], rfl, rfl, .stay _⟩
  | cons member rest ih =>
    obtain ⟨result, u, first, ran⟩ := bind_eq_ok ran
    cases result with
    | error e => cases ran
    | ok next =>
      obtain ⟨result, v, later, ran⟩ := bind_eq_ok ran
      cases result with
      | error e => cases ran
      | ok others =>
        cases ran
        obtain ⟨told, visited⟩ := exists_visited first (kinds member)
        obtain ⟨changes, rfl, rfl, walk⟩ := ih later
        exact ⟨⟨member, next, told⟩ :: changes, rfl, rfl, .visit visited walk⟩

theorem transformMembers_breaksOff {why : BreakOff}
    (broke : (transformMembers r snapshot load k targetOf members).BreaksOff s why t)
    (kinds : ∀ member, (targetOf member).kind = k) :
    ∃ changes member rest u, members = changes.map (·.unit) ++ member :: rest ∧
      Walk r snapshot load s (visitsTo k targetOf changes) u ∧
      (attempt (snapshot.transformers r k (targetOf member)) member (targetOf member)
        load).BreaksOff u why t := by
  induction members generalizing s with
  | nil => exact absurd broke (not_breaksOff rfl)
  | cons member rest ih =>
    rw [transformMembers] at broke
    rcases broke.of_bind fun _ => rfl with here | ⟨next, u, first, broke⟩
    · exact ⟨[], member, rest, s, rfl, .stay s, here⟩
    rcases broke.of_bind fun _ => rfl with later | ⟨others, v, -, broke⟩
    · obtain ⟨told, visited⟩ := exists_visited first (kinds member)
      obtain ⟨changes, last, more, v, rfl, walk, broke⟩ := ih later
      exact ⟨⟨member, next, told⟩ :: changes, last, more, v, rfl, .visit visited walk, broke⟩
    · exact absurd broke (not_breaksOff rfl)

end Members

/-! ## Loads -/

section Loads

variable [ClassShape U] {r : Roster I H E U} {cls next : U .cls} {load : LoadContext E}
  {s t : Session I H}

/-- The visits to all parts of a class, when these changes came of them. -/
def classVisits (cls next : U .cls) (fields : List (Change (U .field)))
    (methods : List (Change (U .method))) (told : List Entry) : List (Visit U) :=
  let owner := ClassName.ofText (ClassShape.name cls)
  visitsTo .field (fieldTarget owner) fields ++ (visitsTo .method (methodTarget owner) methods ++
    [⟨.cls owner, .cls, ClassShape.setMethods (ClassShape.setFields cls (fields.map (·.next)))
      (methods.map (·.next)), next, told⟩])

theorem target_classVisits {fields : List (Change (U .field))}
    {methods : List (Change (U .method))} {told : List Entry}
    (hf : ClassShape.fields cls = fields.map (·.unit))
    (hm : ClassShape.methods cls = methods.map (·.unit)) :
    (classVisits cls next fields methods told).map (·.target) = classTargets cls := by
  unfold classVisits classTargets
  dsimp only
  rw [List.map_append, List.map_append, target_visitsTo, target_visitsTo, hf, hm]
  rfl

/-- A load that went through has visited all parts of the class, or looked into none. -/
theorem loadClass_visits (ran : loadClass r cls load s = .ok (.ok next) t) :
    let owner := ClassName.ofText (ClassShape.name cls)
    let snapshot := s.store.snapshot
    (snapshot.touchesClass owner = false ∧ next = cls ∧ t = s) ∨
      ∃ fields methods told u,
        ClassShape.fields cls = fields.map (·.unit) ∧
        ClassShape.methods cls = methods.map (·.unit) ∧
        Walk r snapshot load s (classVisits cls next fields methods told) u ∧
        t = (report (.classComplete owner)).after u := by
  intro owner snapshot
  unfold loadClass at ran
  rw [bind_apply, getStore_apply] at ran
  dsimp only at ran
  split at ran
  · next untouched =>
    cases ran
    exact .inl ⟨by simpa using untouched, rfl, rfl⟩
  · obtain ⟨result, u, ranFields, ran⟩ := bind_eq_ok ran
    cases result with
    | error e => cases ran
    | ok fields =>
      obtain ⟨result, v, ranMethods, ran⟩ := bind_eq_ok ran
      cases result with
      | error e => cases ran
      | ok methods =>
        obtain ⟨result, w, ranClass, ran⟩ := bind_eq_ok ran
        cases result with
        | error e => cases ran
        | ok last =>
          cases ran
          obtain ⟨fields, hf, rfl, walkFields⟩ := transformMembers_visits ranFields fun _ => rfl
          obtain ⟨methods, hm, rfl, walkMethods⟩ := transformMembers_visits ranMethods fun _ => rfl
          obtain ⟨told, visited⟩ := exists_visited ranClass rfl
          rw [ClassShape.methods_setFields] at hm
          have walk := walkFields.append (walkMethods.append (.visit visited (.stay w)))
          exact .inr ⟨fields, methods, told, w, hf, hm, walk, rfl⟩

/-- A load that broke off did so in one visit, after others. -/
theorem loadClass_breaksOff {why : BreakOff} (broke : (loadClass r cls load).BreaksOff s why t) :
    ∃ (visits : List (Visit U)) (k : Kind) (unit : U k) (target : Target) (u : Session I H),
      target.kind = k ∧ visits.map (·.target) ++ [target] <+: classTargets cls ∧
      Walk r s.store.snapshot load s visits u ∧
      (attempt (s.store.snapshot.transformers r k target) unit target load).BreaksOff u why t := by
  unfold loadClass BreaksOff at broke
  rw [bind_apply, getStore_apply] at broke
  dsimp only at broke
  change BreaksOff _ s why t at broke
  split at broke
  · exact absurd broke (not_breaksOff rfl)
  unfold classTargets
  dsimp only
  generalize ClassName.ofText (ClassShape.name cls) = owner at broke ⊢
  rcases broke.of_bind fun _ => rfl with inFields | ⟨fields, u, ranFields, broke⟩
  · obtain ⟨done, field, rest, u, split, walk, broke⟩ :=
      transformMembers_breaksOff inFields fun _ => rfl
    refine ⟨_, .field, field, fieldTarget owner field, u, rfl, ?_, walk, broke⟩
    rw [split, target_visitsTo, List.map_append, List.map_cons, List.append_assoc]
    exact (List.prefix_append_right_inj _).2 (List.prefix_append ..)
  obtain ⟨fields, hf, rfl, walkFields⟩ := transformMembers_visits ranFields fun _ => rfl
  rcases broke.of_bind fun _ => rfl with inMethods | ⟨methods, v, ranMethods, broke⟩
  · obtain ⟨done, method, rest, v, split, walk, broke⟩ :=
      transformMembers_breaksOff inMethods fun _ => rfl
    rw [ClassShape.methods_setFields] at split
    refine ⟨_, .method, method, methodTarget owner method, v, rfl, ?_, walkFields.append walk,
      broke⟩
    rw [hf, split, List.map_append, target_visitsTo, target_visitsTo, List.map_append,
      List.map_cons, List.append_assoc, List.append_assoc]
    refine (List.prefix_append_right_inj _).2 ((List.prefix_append_right_inj _).2 ?_)
    exact List.prefix_append ..
  obtain ⟨methods, hm, rfl, walkMethods⟩ := transformMembers_visits ranMethods fun _ => rfl
  rw [ClassShape.methods_setFields] at hm
  rcases broke.of_bind fun _ => rfl with inClass | ⟨last, w, -, broke⟩
  · refine ⟨_, .cls, _, .cls owner, v, rfl, ?_, walkFields.append walkMethods, inClass⟩
    refine ⟨[], ?_⟩
    rw [List.append_nil, hf, hm, List.map_append, target_visitsTo, target_visitsTo,
      List.append_assoc]
  · exact absurd broke (not_breaksOff rfl)

end Loads

/-! ## What becomes of a trail -/

/-- A rule says what may become of a trail. It allows nothing to happen, and one thing after
another. -/
structure TrailRule where
  allows : Trail → Trail → Prop
  refl : ∀ a, allows a a
  trans : ∀ {a b c}, allows a b → allows b c → allows a c

/-- Nothing at all happens to a trail. -/
def leftAlone : TrailRule where
  allows a b := b = a
  refl _ := rfl
  trans first next := next.trans first

/-- A trail tells of no failure. -/
def Trail.Unfailed (trail : Trail) : Prop := ∀ t, Sound (trail.history t)

/-- No failure is added. -/
def unfailing : TrailRule where
  allows a b := a.Unfailed → b.Unfailed
  refl _ h := h
  trans first next h := next (first h)

variable {name : String} {rule : TrailRule}

/-- Whatever the call does to the trail is allowed, also when it crashes. -/
def SessionM.ObeysIn (name : String) (rule : TrailRule) (x : SessionM I H α) : Prop :=
  ∀ s, rule.allows (s.trails name) ((x.after s).trails name)

theorem obeysIn_heritable : Heritable (I := I) (H := H) (ObeysIn name rule) where
  pure _ _ := rule.refl _
  bind hx hf s := by
    have first := hx s
    rw [after_bind]
    split
    · exact rule.trans first (hf _ _)
    · exact first
  isolate hx s := by
    rw [after_of_ok (isolate_apply _ s)]
    exact hx s
  getStore _ := rule.refl _
  report _ _ := rule.refl _

theorem obeysIn_crashes : CrashesWith (I := I) (H := H) (ObeysIn name rule) :=
  fun _ _ => rule.refl _

section Recorded

variable {r : Roster I H E U} {snapshot : Snapshot I} {load : LoadContext E} {s t : Session I H}

theorem trail_after_record {target : Target} {told : List Entry} (kept : load.trail? = some name) :
    ((record load.trail? target told).after s).trails name =
      (s.trails name).record target told := by
  rw [kept, after_of_ok (record_some_apply ..)]
  exact Trails.set_self ..

theorem Visited.left {v : Visit U} (visited : Visited r snapshot load s v t) :
    t = (record load.trail? v.target v.change.told).after ((v.ask r snapshot load).after s) :=
  (after_of_ok visited.ran).symm.trans (after_attempt visited.asked)

theorem Visited.trail {v : Visit U} (visited : Visited r snapshot load s v t)
    (hr : r.AppliesWith (ObeysIn name rule)) (kept : load.trail? = some name) :
    ∃ left, rule.allows (s.trails name) left ∧
      t.trails name = left.record v.target v.change.told := by
  refine ⟨((v.ask r snapshot load).after s).trails name,
    obeysIn_heritable.ask_transformers hr s, ?_⟩
  rw [visited.left]
  exact trail_after_record kept

theorem Visited.sound {v : Visit U} (visited : Visited r snapshot load s v t) :
    Sound v.change.told := by
  obtain ⟨turns, failed?, asked, -, rounds, ends⟩ := attempt_turns (answer_of_ok visited.ran)
  obtain rfl := ends.eq_none
  have told := (Prod.mk.inj (Except.ok.inj (visited.asked.symm.trans asked))).2
  rw [told]
  exact List.forall_mem_map.2 rounds.not_failed

theorem Trail.Unfailed.record {trail : Trail} (h : trail.Unfailed) {target : Target}
    {told : List Entry} (sound : Sound told) : (trail.record target told).Unfailed := by
  intro u
  by_cases same : u = target
  · subst same
    rw [history_record_self]
    exact List.forall_mem_append.2 ⟨h u, sound⟩
  · rw [history_record_of_ne _ _ same]
    exact h u

def Visit.telling (v : Visit U) : Target × List Entry := (v.target, v.change.told)

/-- A trail that transformers leave alone tells of the visits, in order. -/
theorem Walk.trail {visits : List (Visit U)} (walk : Walk r snapshot load s visits t)
    (hr : r.AppliesWith (ObeysIn name leftAlone)) (kept : load.trail? = some name) :
    t.trails name = (s.trails name).recordAll (visits.map Visit.telling) := by
  induction walk with
  | stay => rfl
  | visit visited _ ih =>
    obtain ⟨left, rfl, added⟩ := visited.trail hr kept
    rw [ih, added]
    rfl

theorem Walk.unfailed {visits : List (Visit U)} (walk : Walk r snapshot load s visits t)
    (hr : r.AppliesWith (ObeysIn name unfailing)) (kept : load.trail? = some name)
    (began : (s.trails name).Unfailed) : (t.trails name).Unfailed := by
  induction walk with
  | stay => exact began
  | visit visited _ ih =>
    obtain ⟨left, allowed, added⟩ := visited.trail hr kept
    apply ih
    rw [added]
    exact (allowed began).record visited.sound

end Recorded

end TransformRegistry
