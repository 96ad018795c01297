import TransformRegistry.Proofs.Effects

/-!
# Rounds of a registration

In each round the store decides on the declaration and the transformer is asked for labels. Then the
store takes the declaration in, unless the answers have changed it. Who leaves the store alone needs
one round, and how many rounds there may be shows only when all of them have been lost.
-/

namespace TransformRegistry

variable {I H E : Type} {U : Kind → Type} [DecidableEq I] {r : Roster I H E U} {h : Handle I}
  {label : String} {declared : List Target} {s t : Session I H}

open SessionM

/-! ## One round -/

theorem swap_of_eq {seen : Store I} (same : s.store = seen) (next : Store I) :
    swap seen next s = .ok true { s with store := next } := by
  simp only [swap, bind_apply, getStore_apply, same, if_true, setStore_apply, pure_apply]

theorem swap_of_ne {seen : Store I} (changed : s.store ≠ seen) (next : Store I) :
    swap seen next s = .ok false s := by
  simp only [swap, bind_apply, getStore_apply, changed, if_false, pure_apply]

section Round

variable {done : List (Target × Placement)} {next : Store I}

theorem takeIn_of_repeat {target : Target}
    (refused : s.store.accept h declared = .error (.alreadyRegistered target)) (roundsLeft : Nat) :
    takeIn r h label declared (roundsLeft + 1) s =
      ((fun label => .error ⟨label, .alreadyRegistered target⟩) <$> r.label h) s := by
  rw [takeIn, bind_apply, getStore_apply, map_apply]
  simp only [refused, bind_apply, pure_apply]

theorem takeIn_of_refused {refusal : Refusal} (refused : s.store.accept h declared = .error refusal)
    (new : ∀ target, refusal ≠ .alreadyRegistered target) (roundsLeft : Nat) :
    takeIn r h label declared (roundsLeft + 1) s = .ok (.error ⟨label, refusal⟩) s := by
  rw [takeIn, bind_apply, getStore_apply]
  simp only [refused]
  cases refusal with
  | alreadyRegistered target => exact absurd rfl (new target)
  | _ => rfl

theorem takeIn_of_crash (accepted : s.store.accept h declared = .ok (done, next)) {c : Crash}
    (crashed : reportRepeats r h (repeats done) s = .error c t) (roundsLeft : Nat) :
    takeIn r h label declared (roundsLeft + 1) s = .error c t := by
  rw [takeIn, bind_apply, getStore_apply]
  simp only [accepted, bind_apply, crashed]

theorem takeIn_of_accepted (accepted : s.store.accept h declared = .ok (done, next))
    (reported : reportRepeats r h (repeats done) s = .ok () t) (same : t.store = s.store)
    (roundsLeft : Nat) :
    takeIn r h label declared (roundsLeft + 1) s = .ok (.ok (done.map (·.2)))
      { t with store := next, events := t.events ++ [.registered label h.kind done.length] } := by
  rw [takeIn, bind_apply, getStore_apply]
  simp only [accepted, bind_apply, reported, swap_of_eq same, if_true, report_apply, pure_apply]

theorem takeIn_of_lost (accepted : s.store.accept h declared = .ok (done, next))
    (reported : reportRepeats r h (repeats done) s = .ok () t) (changed : t.store ≠ s.store)
    (roundsLeft : Nat) :
    takeIn r h label declared (roundsLeft + 1) s = takeIn r h label declared roundsLeft t := by
  rw [takeIn, bind_apply, getStore_apply]
  simp only [accepted, bind_apply, reported, swap_of_ne changed, Bool.false_eq_true, if_false]

end Round

/-! ## How many rounds -/

/-- So many rounds have been lost: the store would have taken the declaration in, but is another one
after the labels. -/
inductive Lost (r : Roster I H E U) (h : Handle I) (declared : List Target) :
    Nat → Session I H → Session I H → Prop
  | none (s : Session I H) : Lost r h declared 0 s s
  | round {n : Nat} {s t u : Session I H} {done : List (Target × Placement)} {next : Store I} :
      s.store.accept h declared = .ok (done, next) →
      reportRepeats r h (repeats done) s = .ok () t → t.store ≠ s.store →
      Lost r h declared n t u → Lost r h declared (n + 1) s u

/-- A registration gives up only when every round has been lost. Otherwise further rounds would have
made no difference. -/
theorem takeIn_rounds (n : Nat) (s : Session I H) :
    (∃ t, Lost r h declared n s t ∧ takeIn r h label declared n s = .error ⟨none⟩ t) ∨
      ∀ more, takeIn r h label declared (n + more) s = takeIn r h label declared n s := by
  induction n generalizing s with
  | zero => exact .inl ⟨s, .none s, rfl⟩
  | succ n ih =>
    simp only [Nat.succ_add]
    cases decided : s.store.accept h declared with
    | error refusal =>
      right
      intro more
      cases refusal with
      | alreadyRegistered target => rw [takeIn_of_repeat decided, takeIn_of_repeat decided]
      | _ => rw [takeIn_of_refused decided nofun, takeIn_of_refused decided nofun]
    | ok result =>
      obtain ⟨done, next⟩ := result
      cases reported : reportRepeats r h (repeats done) s with
      | error c t =>
        right
        intro more
        rw [takeIn_of_crash decided reported, takeIn_of_crash decided reported]
      | ok _ t =>
        by_cases same : t.store = s.store
        · right
          intro more
          rw [takeIn_of_accepted decided reported same, takeIn_of_accepted decided reported same]
        · simp only [takeIn_of_lost decided reported same]
          rcases ih t with ⟨u, lost, gaveUp⟩ | stable
          · exact .inl ⟨u, .round decided reported same lost, gaveUp⟩
          · exact .inr stable

/-! ## The questions by themselves -/

/-- All that a registration asks and decides, but nothing is taken in. -/
def deliberate (r : Roster I H E U) (h : Handle I) (label : String) (declared : List Target) :
    Nat → SessionM I H (Except RegistrationError (List (Target × Placement) × Store I))
  | 0 => crash ⟨none⟩
  | roundsLeft + 1 => do
    let store ← getStore
    match store.accept h declared with
    | .error (.alreadyRegistered t) => return .error ⟨← r.label h, .alreadyRegistered t⟩
    | .error refusal => return .error ⟨label, refusal⟩
    | .ok (done, next) =>
      reportRepeats r h (repeats done)
      if (← getStore) = store then return .ok (done, next)
      deliberate r h label declared roundsLeft

/-- Has the store take in what was decided. -/
def conclude (h : Handle I) (label : String) :
    Except RegistrationError (List (Target × Placement) × Store I) →
      SessionM I H (Except RegistrationError (List Placement))
  | .error e => return .error e
  | .ok (done, next) => do
    setStore next
    report (.registered label h.kind done.length)
    return .ok (done.map (·.2))

/-- Nobody is asked anything between a decision and what comes of it. -/
theorem takeIn_eq_deliberate (n : Nat) (s : Session I H) :
    takeIn r h label declared n s =
      (deliberate r h label declared n >>= conclude h label) s := by
  induction n generalizing s with
  | zero => rfl
  | succ n ih =>
    rw [bind_apply, deliberate, bind_apply, getStore_apply]
    dsimp only
    cases decided : s.store.accept h declared with
    | error refusal =>
      cases refusal with
      | alreadyRegistered target =>
        rw [takeIn_of_repeat decided, map_apply]
        simp only [bind_apply]
        cases r.label h s <;> rfl
      | _ => exact takeIn_of_refused decided nofun n
    | ok result =>
      obtain ⟨done, next⟩ := result
      simp only [bind_apply, getStore_apply]
      cases reported : reportRepeats r h (repeats done) s with
      | error c t => exact takeIn_of_crash decided reported n
      | ok _ t =>
        dsimp only
        by_cases same : t.store = s.store
        · rw [if_pos same, takeIn_of_accepted decided reported same]
          rfl
        · rw [if_neg same, takeIn_of_lost decided reported same, ih, bind_apply]

theorem accept_of_deliberate {n : Nat} {done : List (Target × Placement)} {next : Store I}
    (decided : deliberate r h label declared n s = .ok (.ok (done, next)) t) :
    t.store.accept h declared = .ok (done, next) := by
  induction n generalizing s with
  | zero => cases decided
  | succ n ih =>
    rw [deliberate, bind_apply, getStore_apply] at decided
    dsimp only at decided
    cases answer : s.store.accept h declared with
    | error refusal =>
      rw [answer] at decided
      cases refusal with
      | alreadyRegistered target =>
        simp only [bind_apply] at decided
        cases labelled : r.label h s <;> rw [labelled] at decided <;> cases decided
      | _ => cases decided
    | ok result =>
      rw [answer] at decided
      simp only [bind_apply, getStore_apply] at decided
      cases reported : reportRepeats r h (repeats result.1) s with
      | error c u =>
        rw [reported] at decided
        cases decided
      | ok _ u =>
        rw [reported] at decided
        dsimp only at decided
        split at decided
        · next same =>
          cases decided
          rw [same, answer]
        · exact ih decided

/-! ## Transformers that leave the store alone -/

section Calm

variable {quiet : H → Prop}

omit [DecidableEq I] in
theorem reportRepeats_of_calm (calm : (r.label h).Calm quiet) (hs : quiet s.host)
    (targets : List Target) :
    (∃ t, reportRepeats r h targets s = .ok () t ∧ t.store = s.store ∧ quiet t.host) ∨
      ∃ c t u, reportRepeats r h targets s = .error c u ∧ r.label h t = .error c u ∧
        t.store = s.store ∧ quiet t.host := by
  induction targets generalizing s with
  | nil => exact .inl ⟨s, rfl, rfl, hs⟩
  | cons target rest ih =>
    obtain ⟨kept, quiets⟩ := calm s hs
    cases labelled : r.label h s with
    | error c t =>
      refine .inr ⟨c, s, t, ?_, labelled, rfl, hs⟩
      simp only [reportRepeats, reportRepeat, bind_apply, labelled]
    | ok label t =>
      rw [after_of_ok labelled] at kept quiets
      let events := t.events ++ [.repeatIgnored target label]
      have step : reportRepeats r h (target :: rest) s =
          reportRepeats r h rest { t with events } := by
        simp only [reportRepeats, reportRepeat, bind_apply, labelled, report_apply, events]
      rw [step, ← kept]
      exact ih (s := { t with events }) quiets

/-- How a registration ends whose transformer leaves the store alone: as the store decides, unless a
label is missing. An error has the label that was given last. -/
inductive Settled (r : Roster I H E U) (h : Handle I) (quiet : H → Prop) (store : Store I)
    (declared : List Target) :
    EStateM.Result Crash (Session I H) (Except RegistrationError (List Placement)) → Prop
  | accepted {done : List (Target × Placement)} {next : Store I} {t : Session I H} :
      store.accept h declared = .ok (done, next) → t.store = next → quiet t.host →
      Settled r h quiet store declared (.ok (.ok (done.map (·.2))) t)
  | refused {refusal : Refusal} {label : String} {t u : Session I H} :
      store.accept h declared = .error refusal → r.label h t = .ok label u → t.store = store →
      quiet t.host → u.store = store → quiet u.host →
      Settled r h quiet store declared (.ok (.error ⟨label, refusal⟩) u)
  | crashed {c : Crash} {t u : Session I H} :
      r.label h t = .error c u → t.store = store → quiet t.host →
      Settled r h quiet store declared (.error c u)

namespace Settled

variable {store : Store I}
  {ended : EStateM.Result Crash (Session I H) (Except RegistrationError (List Placement))}

theorem of_refused (settled : Settled r h quiet store declared ended) {refusal : Refusal}
    (refused : store.accept h declared = .error refusal) :
    ∃ t, t.store = store ∧ quiet t.host ∧
      ended = ((fun label => .error ⟨label, refusal⟩) <$> r.label h) t := by
  cases settled with
  | accepted accepted =>
    rw [refused] at accepted
    cases accepted
  | refused again labelled same quiets =>
    rw [refused] at again
    cases again
    exact ⟨_, same, quiets, by rw [map_apply, labelled]⟩
  | crashed crashed same quiets => exact ⟨_, same, quiets, by rw [map_apply, crashed]⟩

theorem of_accepted (settled : Settled r h quiet store declared ended)
    {done : List (Target × Placement)} {next : Store I}
    (accepted : store.accept h declared = .ok (done, next)) :
    (∃ t, ended = .ok (.ok (done.map (·.2))) t ∧ t.store = next ∧ quiet t.host) ∨
      ∃ c t u, ended = .error c u ∧ r.label h t = .error c u ∧ t.store = store ∧ quiet t.host := by
  cases settled with
  | accepted again stored quiets =>
    rw [accepted] at again
    cases again
    exact .inl ⟨_, rfl, stored, quiets⟩
  | refused refused =>
    rw [accepted] at refused
    cases refused
  | crashed crashed same quiets => exact .inr ⟨_, _, _, rfl, crashed, same, quiets⟩

end Settled

theorem registerFor_settled (calm : (r.label h).Calm quiet) (hs : quiet s.host)
    (declared : List Target) :
    Settled r h quiet s.store declared (registerFor r h declared s) := by
  obtain ⟨kept, quiets⟩ := calm s hs
  unfold registerFor
  rw [bind_apply]
  cases labelled : r.label h s with
  | error c t => exact .crashed labelled rfl hs
  | ok label t =>
    rw [after_of_ok labelled] at kept quiets
    rw [← kept]
    dsimp only
    cases decided : t.store.accept h declared with
    | error refusal =>
      cases refusal with
      | alreadyRegistered target =>
        obtain ⟨again, still⟩ := calm t quiets
        rw [rounds, takeIn_of_repeat decided, map_apply]
        cases relabelled : r.label h t with
        | error c u => exact .crashed relabelled rfl quiets
        | ok label u =>
          rw [after_of_ok relabelled] at again still
          exact .refused decided relabelled rfl quiets again still
      | _ =>
        rw [rounds, takeIn_of_refused decided nofun]
        exact .refused decided labelled kept.symm hs rfl quiets
    | ok result =>
      obtain ⟨done, next⟩ := result
      rcases reportRepeats_of_calm calm quiets (repeats done) with
        ⟨u, reported, same, still⟩ | ⟨c, u, v, crashed, relabelled, same, still⟩
      · rw [rounds, takeIn_of_accepted decided reported same]
        exact .accepted decided rfl still
      · rw [rounds, takeIn_of_crash decided crashed]
        exact .crashed relabelled same still

end Calm

end TransformRegistry
