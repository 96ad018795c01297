import TransformRegistry.Gathering.Service

/-!
# What a call may do to the store

A rule says what may become of a store. It allows nothing to happen, and one thing after another.
A call obeys a rule if whatever it does to the store is allowed, also when it crashes.
-/

namespace TransformRegistry

structure StoreRule (I : Type) where
  allows : Store I → Store I → Prop
  refl : ∀ s, allows s s
  trans : ∀ {s t u}, allows s t → allows t u → allows s u

variable {I H E α β : Type} {rule : StoreRule I}

namespace SessionM

/-- The session after a call, whether it ends with a value or with a crash. -/
def after (x : SessionM I H α) (s : Session I H) : Session I H :=
  match x s with
  | .ok _ t => t
  | .error _ t => t

/-- How a call ends. -/
def answer (x : SessionM I H α) (s : Session I H) : Except Crash α :=
  match x s with
  | .ok a _ => .ok a
  | .error crash _ => .error crash

theorem after_of_ok {x : SessionM I H α} {a : α} {s t : Session I H} (h : x s = .ok a t) :
    x.after s = t := by
  simp [after, h]

theorem after_of_error {x : SessionM I H α} {crash : Crash} {s t : Session I H}
    (h : x s = .error crash t) : x.after s = t := by
  simp [after, h]

theorem after_congr {x y : SessionM I H α} {s t : Session I H} (h : x s = y t) :
    x.after s = y.after t := by
  simp only [after, h]

theorem answer_of_ok {x : SessionM I H α} {a : α} {s t : Session I H} (h : x s = .ok a t) :
    x.answer s = .ok a := by
  simp [answer, h]

theorem eq_ok_of_answer {x : SessionM I H α} {a : α} {s : Session I H} (h : x.answer s = .ok a) :
    x s = .ok a (x.after s) := by
  unfold answer at h
  unfold after
  cases ran : x s <;> simp_all

theorem eq_error_of_answer {x : SessionM I H α} {crash : Crash} {s : Session I H}
    (h : x.answer s = .error crash) : x s = .error crash (x.after s) := by
  unfold answer at h
  unfold after
  cases ran : x s <;> simp_all

@[simp] theorem answer_pure (a : α) (s : Session I H) :
    (pure a : SessionM I H α).answer s = .ok a := rfl

theorem answer_bind (x : SessionM I H α) (f : α → SessionM I H β) (s : Session I H) :
    (x >>= f).answer s = match x.answer s with
      | .ok a => (f a).answer (x.after s)
      | .error crash => .error crash := by
  unfold answer after
  rw [bind_apply]
  cases x s <;> rfl

theorem answer_getStore_bind (f : Store I → SessionM I H β) (s : Session I H) :
    (getStore >>= f).answer s = (f s.store).answer s := rfl

theorem after_bind (x : SessionM I H α) (f : α → SessionM I H β) (s : Session I H) :
    (x >>= f).after s = match x.answer s with
      | .ok a => (f a).after (x.after s)
      | .error _ => x.after s := by
  unfold answer after
  rw [bind_apply]
  cases x s <;> rfl

theorem bind_of_ok {x : SessionM I H α} {f : α → SessionM I H β} {a : α} {s t : Session I H}
    (ran : x s = .ok a t) : (x >>= f) s = f a t := by
  rw [bind_apply, ran]

theorem bind_eq_ok {x : SessionM I H α} {f : α → SessionM I H β} {s t : Session I H} {b : β}
    (h : (x >>= f) s = .ok b t) : ∃ a u, x s = .ok a u ∧ f a u = .ok b t := by
  rw [bind_apply] at h
  cases ran : x s with
  | ok a u =>
    rw [ran] at h
    exact ⟨a, u, rfl, h⟩
  | error crash u =>
    rw [ran] at h
    cases h

theorem bind_eq_error {x : SessionM I H α} {f : α → SessionM I H β} {s t : Session I H}
    {crash : Crash} (h : (x >>= f) s = .error crash t) :
    x s = .error crash t ∨ ∃ a u, x s = .ok a u ∧ f a u = .error crash t := by
  rw [bind_apply] at h
  cases ran : x s with
  | ok a u =>
    rw [ran] at h
    exact .inr ⟨a, u, rfl, h⟩
  | error other u =>
    rw [ran] at h
    cases h
    exact .inl rfl

theorem after_map (f : α → β) (x : SessionM I H α) (s : Session I H) :
    (f <$> x).after s = x.after s := by
  unfold after
  rw [map_apply]
  cases x s <;> rfl

theorem after_discard (x : SessionM I H α) (s : Session I H) :
    (discard x : SessionM I H PUnit).after s = x.after s :=
  after_map (fun _ => ()) x s

theorem answer_map (f : α → β) (x : SessionM I H α) (s : Session I H) :
    (f <$> x).answer s = (x.answer s).map f := by
  unfold answer
  rw [map_apply]
  cases x s <;> rfl

theorem answer_discard (x : SessionM I H α) (s : Session I H) :
    (discard x : SessionM I H PUnit).answer s = (x.answer s).map fun _ => () :=
  answer_map (fun _ => ()) x s

theorem isolate_apply (x : SessionM I H α) (s : Session I H) :
    isolate x s = .ok (x.answer s) (x.after s) := by
  unfold isolate answer after
  cases x s <;> rfl

def Obeys (rule : StoreRule I) (x : SessionM I H α) : Prop :=
  ∀ s, rule.allows s.store (x.after s).store

/-! ## Calls made of calls -/

theorem obeys_of_store_eq {x : SessionM I H α} (h : ∀ s, (x.after s).store = s.store) :
    x.Obeys rule := by
  intro s
  rw [h s]
  exact rule.refl _

theorem obeys_pure (a : α) : (pure a : SessionM I H α).Obeys rule :=
  obeys_of_store_eq fun _ => rfl

theorem obeys_getStore : (getStore : SessionM I H (Store I)).Obeys rule :=
  obeys_of_store_eq fun _ => rfl

theorem obeys_report (e : Event) : (report e : SessionM I H Unit).Obeys rule :=
  obeys_of_store_eq fun _ => rfl

theorem obeys_record {trail? : Option String} {t : Target} {history : List Entry} :
    (record trail? t history : SessionM I H Unit).Obeys rule := by
  cases trail? with
  | none => exact obeys_of_store_eq fun _ => rfl
  | some name => exact obeys_of_store_eq fun _ => rfl

theorem obeys_bind {x : SessionM I H α} {f : α → SessionM I H β} (hx : x.Obeys rule)
    (hf : ∀ a, (f a).Obeys rule) : (x >>= f).Obeys rule := by
  intro s
  have first := hx s
  unfold after at first ⊢
  rw [bind_apply]
  cases hs : x s with
  | ok a t =>
    rw [hs] at first
    exact rule.trans first (hf a t)
  | error c t =>
    rw [hs] at first
    exact first

theorem obeys_isolate {x : SessionM I H α} (hx : x.Obeys rule) : (isolate x).Obeys rule := by
  intro s
  have first := hx s
  unfold after isolate at *
  cases hs : x s <;> rw [hs] at first <;> exact first

end SessionM

/-! ## Leaving the store alone -/

/-- Nothing at all happens to a store. -/
def unchanged : StoreRule I where
  allows s t := t = s
  refl _ := rfl
  trans first next := next.trans first

theorem SessionM.store_eq_of_ok {x : SessionM I H α} (hx : x.Obeys unchanged) {a : α}
    {s t : Session I H} (ran : x s = .ok a t) : t.store = s.store := by
  have kept := hx s
  rw [after_of_ok ran] at kept
  exact kept

/-- Called while the host is in one of the states that are quiet, leaves the store alone and the
host in such a state. -/
def SessionM.Calm (quiet : H → Prop) (x : SessionM I H α) : Prop :=
  ∀ s, quiet s.host → (x.after s).store = s.store ∧ quiet (x.after s).host

theorem SessionM.Obeys.calm {x : SessionM I H α} (hx : x.Obeys unchanged) :
    x.Calm fun _ => True := fun s _ => ⟨hx s, trivial⟩

/-! ## Transformers and services under a rule -/

structure Transformer.AppliesUnder {U : Type} (t : Transformer I H E U) (rule : StoreRule I) :
    Prop where
  label : t.label.Obeys rule
  vote : ∀ ballot, (t.vote ballot).Obeys rule
  transform : ∀ unit ballot, (t.transform unit ballot).Obeys rule

variable {U : Kind → Type}

def Roster.AppliesUnder (r : Roster I H E U) (rule : StoreRule I) : Prop :=
  ∀ k i, (r.transformer k i).AppliesUnder rule

structure Roster.DeclaresUnder (r : Roster I H E U) (rule : StoreRule I) : Prop where
  label : ∀ h, (r.label h).Obeys rule
  targets : ∀ h, (r.targets h).Obeys rule

/-- Transformers obey the rule whenever they are called. -/
structure Roster.Under (r : Roster I H E U) (rule : StoreRule I) : Prop where
  applies : r.AppliesUnder rule
  declares : r.DeclaresUnder rule

def Service.EnumeratesUnder (s : Service I H) (rule : StoreRule I) : Prop :=
  s.transformers.Obeys rule

end TransformRegistry
