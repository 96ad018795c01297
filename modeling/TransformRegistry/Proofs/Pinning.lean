import TransformRegistry.Proofs.Accepted
import TransformRegistry.Proofs.Lockstep
import TransformRegistry.Proofs.Memberwise

/-!
# Applications on a pinned snapshot

Transformers may register others while they are applied, or seal the store. An application does not
look at the store again, so it comes to what it would come to on a copy of the store that was made
when it began. What was registered meanwhile is in the store afterwards.
-/

namespace TransformRegistry

variable {I H E α : Type} {U : Kind → Type}

open SessionM

/-! ## A copy of the store -/

namespace Session

/-- The registry holds a copy of the store. The store itself is put aside, beside the state of the
host. -/
def holding (s : Session I H) (copy : Store I) : Session I (H × Store I) :=
  ⟨copy, s.trails, s.events, (s.host, s.store)⟩

/-- The session with the store that was put aside. -/
def live (s : Session I (H × Store I)) : Session I H := ⟨s.host.2, s.trails, s.events, s.host.1⟩

@[simp] theorem live_holding (s : Session I H) (copy : Store I) : (s.holding copy).live = s := rfl

end Session

/-- The call finds and leaves the store that was put aside. The copy stays as it is. -/
def SessionM.aside (x : SessionM I H α) : SessionM I (H × Store I) α := fun s =>
  match x s.live with
  | .ok a t => .ok a (t.holding s.store)
  | .error c t => .error c (t.holding s.store)

def Transformer.aside {V : Type} (t : Transformer I H E V) : Transformer I (H × Store I) E V where
  label := t.label.aside
  targets := t.targets.aside
  vote ballot := (t.vote ballot).aside
  transform unit ballot := (t.transform unit ballot).aside

def Roster.aside (r : Roster I H E U) : Roster I (H × Store I) E U where
  transformer k i := (r.transformer k i).aside

section Aside

variable {copy : Store I}

theorem SessionM.inStep_aside (x : SessionM I H α) :
    InStep (fun s t => t = s.holding copy) x x.aside := by
  rintro s t rfl
  unfold Meet answer after aside
  rw [Session.live_holding]
  cases x s <;> exact ⟨rfl, rfl⟩

theorem companions_aside :
    Companions fun (s : Session I H) (t : Session I (H × Store I)) => t = s.holding copy where
  report e := by
    rintro s t rfl
    exact ⟨rfl, rfl⟩
  record trail? target history := by
    rintro s t rfl
    cases trail? <;> exact ⟨rfl, rfl⟩

theorem Roster.inStep_aside (r : Roster I H E U) :
    r.InStep (fun s t => t = s.holding copy) r.aside := fun _ _ =>
  ⟨SessionM.inStep_aside _, fun _ => SessionM.inStep_aside _, fun _ _ => SessionM.inStep_aside _⟩

/-- On a copy of the store, the application ends as it does on the store, and leaves the copy as it
was. -/
theorem Application.run_aside [ClassShape U] (r : Roster I H E U) (a : Application E U α)
    (s : Session I H) :
    (a.run r).answer s = (a.run r.aside).answer (s.holding s.store) ∧
      (a.run r.aside).after (s.holding s.store) = ((a.run r).after s).holding s.store :=
  companions_aside.run r.inStep_aside a rfl rfl

end Aside

/-! ## Transformers that do not read the store -/

/-- The sessions differ in nothing but the store, and what was reported. -/
def Session.Alike (s t : Session I H) : Prop := t.trails = s.trails ∧ t.host = s.host

/-- The call is made, and what it did to the store is undone. -/
def SessionM.undone (x : SessionM I H α) : SessionM I H α := fun s =>
  match x s with
  | .ok a t => .ok a { t with store := s.store }
  | .error c t => .error c { t with store := s.store }

def Transformer.undone {V : Type} (t : Transformer I H E V) : Transformer I H E V where
  label := t.label.undone
  targets := t.targets.undone
  vote ballot := (t.vote ballot).undone
  transform unit ballot := (t.transform unit ballot).undone

def Roster.undone (r : Roster I H E U) : Roster I H E U where
  transformer k i := (r.transformer k i).undone

section Undone

variable {copy : Store I}

theorem SessionM.InStep.undone {x : SessionM I H α} (hx : SessionM.InStep Session.Alike x x) :
    SessionM.InStep (fun s t => s.Alike t ∧ t.store = copy) x x.undone := by
  rintro s t ⟨alike, rfl⟩
  obtain ⟨same, left⟩ := hx s t alike
  unfold Meet
  rw [same]
  unfold answer after SessionM.undone at *
  cases ran : x t <;> rw [ran] at left <;> exact ⟨rfl, left, rfl⟩

theorem companions_undone :
    Companions fun (s : Session I H) (t : Session I H) => s.Alike t ∧ t.store = copy where
  report e := by
    rintro s t ⟨alike, kept⟩
    exact ⟨rfl, alike, kept⟩
  record trail? target history := by
    rintro s t ⟨⟨trails, host⟩, kept⟩
    cases trail? with
    | none => exact ⟨rfl, ⟨trails, host⟩, kept⟩
    | some name => exact ⟨rfl, ⟨by simp only [after, record_some_apply, trails], host⟩, kept⟩

theorem Roster.InStep.undone {r : Roster I H E U} (hr : r.InStep Session.Alike r) :
    r.InStep (fun s t => s.Alike t ∧ t.store = copy) r.undone := fun k i =>
  ⟨(hr k i).label.undone, fun ballot => ((hr k i).vote ballot).undone,
    fun unit ballot => ((hr k i).transform unit ballot).undone⟩

/-- Where transformers do not read the store, the application ends as it does with whatever they do
to the store undone at once. -/
theorem Application.run_undone [ClassShape U] {r : Roster I H E U} (hr : r.InStep Session.Alike r)
    (a : Application E U α) (s : Session I H) :
    (a.run r).answer s = (a.run r.undone).answer s ∧
      ((a.run r).after s).Alike ((a.run r.undone).after s) ∧
      ((a.run r.undone).after s).store = s.store :=
  companions_undone.run hr.undone a ⟨⟨rfl, rfl⟩, rfl⟩ rfl

end Undone

/-! ## Calls that do something to the store and say nothing of it -/

/-- The call changes nothing but the store and what was reported. -/
def SessionM.KeepsRest (x : SessionM I H α) : Prop := ∀ s : Session I H, s.Alike (x.after s)

/-- Besides, it ends with a value. -/
structure SessionM.StoreOnly (x : SessionM I H α) : Prop where
  rest : x.KeepsRest
  ends : x.Ends

theorem Session.Alike.trans {s t u : Session I H} (first : s.Alike t) (next : t.Alike u) :
    s.Alike u := ⟨next.1.trans first.1, next.2.trans first.2⟩

theorem Session.Alike.symm {s t : Session I H} (h : s.Alike t) : t.Alike s := ⟨h.1.symm, h.2.symm⟩

theorem keepsRest_heritable : Heritable (KeepsRest (I := I) (H := H)) where
  pure _ _ := ⟨rfl, rfl⟩
  bind hx hf s := by
    have first := hx s
    rw [after_bind]
    split
    · exact first.trans (hf _ _)
    · exact first
  isolate {_ x} hx s := by
    rw [after_of_ok (isolate_apply x s)]
    exact hx s
  getStore _ := ⟨rfl, rfl⟩
  report _ _ := ⟨rfl, rfl⟩

theorem keepsRest_changes [DecidableEq I] : ChangesWith (KeepsRest (I := I) (H := H)) where
  swap {store next _ _ _} _ s := by
    by_cases same : s.store = store
    · rw [after_of_ok (swap_of_eq same next)]
      exact ⟨rfl, rfl⟩
    · rw [after_of_ok (swap_of_ne same next)]
      exact ⟨rfl, rfl⟩
  close s := by
    obtain ⟨events, ran⟩ := sealStore_apply s
    rw [after_of_ok ran]
    exact ⟨rfl, rfl⟩
  crash _ _ := ⟨rfl, rfl⟩

theorem sealStore_storeOnly [DecidableEq I] : (sealStore : SessionM I H Unit).StoreOnly where
  rest := keepsRest_changes.close
  ends s := by
    obtain ⟨events, ran⟩ := sealStore_apply s
    exact ⟨(), answer_of_ok ran⟩

theorem SessionM.StoreOnly.inStep_discard {x : SessionM I H α} (hx : x.StoreOnly) :
    SessionM.InStep Session.Alike (discard x : SessionM I H PUnit) (discard x) := by
  intro s t alike
  obtain ⟨a, ended⟩ := hx.ends s
  obtain ⟨b, ended'⟩ := hx.ends t
  unfold Meet
  rw [answer_discard, answer_discard, after_discard, after_discard, ended, ended']
  exact ⟨rfl, (hx.rest s).symm.trans (alike.trans (hx.rest t))⟩

theorem SessionM.StoreOnly.after_discard_bind {β : Type} {x : SessionM I H α} (hx : x.StoreOnly)
    (f : PUnit → SessionM I H β) (s : Session I H) :
    (discard x >>= f).after s = (f ()).after (x.after s) := by
  obtain ⟨a, ended⟩ := hx.ends s
  rw [after_bind, answer_discard, after_discard, ended]
  rfl

/-! ## What is registered meanwhile -/

/-- Which registrations are accepted in the calls of transformers, by the session in which a call
begins. -/
structure Accounts (I H E : Type) (U : Kind → Type) where
  label : Handle I → Session I H → List (Declaration I)
  vote : Handle I → Ballot E → Session I H → List (Declaration I)
  transform : (k : Kind) → I → U k → Ballot E → Session I H → List (Declaration I)

/-- All that transformers do to the store is to register what the accounts say, or to seal it. -/
structure Accounts.Of [DecidableEq I] (accounts : Accounts I H E U) (r : Roster I H E U) :
    Prop where
  label : ∀ k i s, Registers s (accounts.label ⟨k, i⟩ s) ((r.transformer k i).label.after s)
  vote : ∀ k i ballot s,
    Registers s (accounts.vote ⟨k, i⟩ ballot s) (((r.transformer k i).vote ballot).after s)
  transform : ∀ k i unit ballot s, Registers s (accounts.transform k i unit ballot s)
    (((r.transformer k i).transform unit ballot).after s)

/-- The call, with what is accepted in it noted. -/
def SessionM.accounting (x : SessionM I H α) (account : Session I H → List (Declaration I)) :
    SessionM I (H × List (Declaration I)) α := fun s =>
  besideNotes x (s.withoutNotes.withNotes (s.notes ++ account s.withoutNotes))

def Roster.accounting (r : Roster I H E U) (accounts : Accounts I H E U) :
    Roster I (H × List (Declaration I)) E U where
  transformer k i :=
    { label := (r.transformer k i).label.accounting (accounts.label ⟨k, i⟩)
      targets := besideNotes (r.transformer k i).targets
      vote := fun ballot =>
        ((r.transformer k i).vote ballot).accounting (accounts.vote ⟨k, i⟩ ballot)
      transform := fun unit ballot =>
        ((r.transformer k i).transform unit ballot).accounting
          (accounts.transform k i unit ballot) }

section Accounting

variable [DecidableEq I] {s₀ : Session I H}

/-- What is noted has been registered since, and nothing else has happened to the store. -/
def Accounted (s₀ s : Session I H) (t : Session I (H × List (Declaration I))) : Prop :=
  BesideNotes s t ∧ Registers s₀ t.notes s

theorem SessionM.inStep_accounting {x : SessionM I H α}
    {account : Session I H → List (Declaration I)}
    (hx : ∀ s, Registers s (account s) (x.after s)) :
    InStep (Accounted s₀) x (x.accounting account) := by
  rintro s t ⟨rfl, run⟩
  have ended := answer_besideNotes x (t.withoutNotes.withNotes (t.notes ++ account t.withoutNotes))
  have left := after_besideNotes x (t.withoutNotes.withNotes (t.notes ++ account t.withoutNotes))
  refine ⟨ended.symm, ?_⟩
  unfold after accounting at *
  rw [left]
  exact ⟨rfl, run.trans (hx _)⟩

theorem Accounted.of_store_eq {s s' : Session I H} {t t' : Session I (H × List (Declaration I))}
    (h : Accounted s₀ s t) (bare : t'.withoutNotes = s') (notes : t'.notes = t.notes)
    (kept : s'.store = s.store) : Accounted s₀ s' t' := by
  have run := h.2.trans (.idle kept)
  rw [List.append_nil, ← notes] at run
  exact ⟨bare, run⟩

theorem companions_accounted : Companions (Accounted s₀) where
  report e := by
    intro s t h
    obtain ⟨rfl, -⟩ := id h
    exact ⟨rfl, h.of_store_eq rfl rfl rfl⟩
  record trail? target history := by
    intro s t h
    obtain ⟨rfl, -⟩ := id h
    cases trail? <;> exact ⟨rfl, h.of_store_eq rfl rfl rfl⟩

theorem Accounts.Of.inStep {accounts : Accounts I H E U} {r : Roster I H E U}
    (honest : accounts.Of r) : r.InStep (Accounted s₀) (r.accounting accounts) := fun k i =>
  ⟨SessionM.inStep_accounting (honest.label k i),
    fun ballot => SessionM.inStep_accounting (honest.vote k i ballot),
    fun unit ballot => SessionM.inStep_accounting (honest.transform k i unit ballot)⟩

/-- The application that keeps accounts is the same application, and whatever was accepted in the
calls of transformers is what it registered. -/
theorem Application.accounted [ClassShape U] {accounts : Accounts I H E U} {r : Roster I H E U}
    (honest : accounts.Of r) (a : Application E U α) (s : Session I H) :
    Accounted s ((a.run r).after s) ((a.run (r.accounting accounts)).after (s.withNotes [])) := by
  have start : Accounted s s (s.withNotes []) := ⟨rfl, .idle rfl⟩
  exact (companions_accounted.run honest.inStep a start rfl).2

end Accounting

/-! ## Applications on a copy -/

/-- An application comes to the same when the registry holds a copy of the store, made as it began.
Where transformers do not read the store, it does not matter either whether what they do to it is
done at all. Whatever they had accepted meanwhile is in the store afterwards. -/
theorem application_pinned [DecidableEq I] [ClassShape U] (r : Roster I H E U)
    (a : Application E U α) (s : Session I H) :
    ((a.run r.aside).answer (s.holding s.store) = (a.run r).answer s ∧
      (a.run r.aside.writing).noted (s.holding s.store) = (a.run r.writing).noted s ∧
      (a.run r.aside).after (s.holding s.store) = ((a.run r).after s).holding s.store) ∧
    (r.InStep Session.Alike r →
      (a.run r.undone).answer s = (a.run r).answer s ∧
      (a.run r.undone.writing).noted s = (a.run r.writing).noted s ∧
      ((a.run r.undone).after s).store = s.store) ∧
    ∀ accounts : Accounts I H E U, accounts.Of r →
      let log := (a.run (r.accounting accounts)).noted s
      ((a.run (r.accounting accounts)).after (s.withNotes [])).withoutNotes = (a.run r).after s ∧
        Registers s log ((a.run r).after s) ∧
        ∀ d ∈ log, ∀ t ∈ d.2, d.1 ∈ ((a.run r).after s).store.snapshot.handlesFor t := by
  refine ⟨?_, fun blind => ?_, fun accounts honest => ?_⟩
  · obtain ⟨ended, left⟩ := a.run_aside r s
    exact ⟨ended.symm, (companions_aside.noted r.inStep_aside a rfl rfl).symm, left⟩
  · obtain ⟨ended, -, kept⟩ := a.run_undone blind s
    have noted := companions_undone.noted blind.undone a (s := s) ⟨⟨rfl, rfl⟩, rfl⟩ rfl
    exact ⟨ended.symm, noted.symm, kept⟩
  · obtain ⟨same, run⟩ := a.accounted honest s
    exact ⟨same, run, run.grows.accepted_present⟩

/-- Registers an instance and another of the same number for the class, and seals the store. -/
def enroll (h : Handle Nat) : SessionM Nat Unit Unit := do
  discard (register fieldwise h)
  discard (register fieldwise ⟨.cls, h.id⟩)
  discard sealStore

/-- Everyone enrolls another when applied. -/
def enrolling : Roster Nat Unit Unit PlainUnit where
  transformer k i :=
    { fieldwise.transformer k i with
      transform := fun unit _ => do
        enroll ⟨k, i + 10⟩
        return .ok (PlainUnit.mark (toString i) k unit) }

def enrolled (h : Handle Nat) (s : Session Nat Unit) : List (Declaration Nat) :=
  accepted fieldwise h s ++
    accepted fieldwise ⟨.cls, h.id⟩ ((register fieldwise h).after s)

theorem registering_storeOnly (h : Handle Nat) : (register fieldwise h).StoreOnly where
  rest := by
    have plain : fieldwise.DeclaresWith KeepsRest :=
      ⟨fun _ => keepsRest_heritable.pure _, fun _ => keepsRest_heritable.pure _⟩
    exact keepsRest_heritable.register keepsRest_changes plain
  ends := register_ends (ends_heritable.pure _) (ends_heritable.pure _) (obeys_pure _)

theorem enroll_inStep (h : Handle Nat) : InStep Session.Alike (enroll h) (enroll h) := by
  unfold enroll
  refine (registering_storeOnly h).inStep_discard.bind fun _ => ?_
  refine (registering_storeOnly _).inStep_discard.bind fun _ => ?_
  exact sealStore_storeOnly.inStep_discard

theorem registers_enroll (h : Handle Nat) (s : Session Nat Unit) :
    Registers s (enrolled h s) ((enroll h).after s) := by
  have plain : fieldwise.DeclaresUnder unchanged :=
    (Roster.marking_under fun _ => obeys_pure _).declares
  have run := ((registers_alone plain h s).trans (registers_alone plain ⟨.cls, h.id⟩ _)).trans
    (.close _)
  rw [List.append_nil] at run
  unfold enroll
  rw [(registering_storeOnly h).after_discard_bind, (registering_storeOnly _).after_discard_bind,
    after_discard]
  exact run

/-- A field and its class are given one mark each, though others are enrolled for both meanwhile.
Those have come by the end. -/
theorem application_pinned_enrolling :
    let f : PlainMember := { name := "f", descriptor := "I" }
    let a : Application Unit PlainUnit PlainClass := .cls { name := "a/B", fields := [f] } {}
    let s₀ : Session Nat Unit := { store := .empty, host := () }
    let s₁ := (register fieldwise ⟨.field, 1⟩).after s₀
    let s := (register fieldwise ⟨.cls, 2⟩).after s₁
    (a.run enrolling).answer s =
        .ok (.ok { name := "a/B", fields := [{ f with marks := ["1"] }], marks := ["2"] }) ∧
      (a.run enrolling.aside.writing).noted (s.holding s.store) = (a.run enrolling.writing).noted s ∧
      (a.run enrolling.undone.writing).noted s = (a.run enrolling.writing).noted s ∧
      ⟨.field, 11⟩ ∈ ((a.run enrolling).after s).store.snapshot.handlesFor (.ofField "a.B" "f" "I") ∧
      ⟨.cls, 11⟩ ∈ ((a.run enrolling).after s).store.snapshot.handlesFor (.ofClass "a.B") := by
  intro f a s₀ s₁ s
  have blind : enrolling.InStep Session.Alike enrolling := fun k i =>
    ⟨inStep_pure _, fun _ => inStep_pure _, fun unit _ =>
      (enroll_inStep ⟨k, i + 10⟩).bind fun _ => inStep_pure _⟩
  let accounts : Accounts Nat Unit Unit PlainUnit :=
    { label := fun _ _ => []
      vote := fun _ _ _ => []
      transform := fun k i _ _ s => enrolled ⟨k, i + 10⟩ s }
  have honest : accounts.Of enrolling :=
    { label := fun _ _ _ => .idle rfl
      vote := fun _ _ _ _ => .idle rfl
      transform := fun k i unit _ s => by
        have run := registers_enroll ⟨k, i + 10⟩ s
        simp only [enrolling, after_bind]
        split <;> exact run }
  obtain ⟨copied, dropped, accounted⟩ := application_pinned enrolling a s
  have present := (accounted accounts honest).2.2
  refine ⟨by decide +kernel, copied.2.1, (dropped blind).2.1, ?_, ?_⟩
  · exact present (⟨.field, 11⟩, [.ofField "a.B" "f" "I"]) (by decide +kernel) _ List.mem_cons_self
  · exact present (⟨.cls, 11⟩, [.ofClass "a.B"]) (by decide +kernel) _ List.mem_cons_self

end TransformRegistry
