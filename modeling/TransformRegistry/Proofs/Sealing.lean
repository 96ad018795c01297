import TransformRegistry.Proofs.Accepted
import TransformRegistry.Proofs.HandOver
import TransformRegistry.Proofs.Watching

/-!
# A sealed store

A store that is sealed takes nothing in, so it stays as it is for good, whoever asks for what. How
a registration is refused depends on what was declared, since a declaration is looked at before
the seal.
-/

namespace TransformRegistry

variable {I H E : Type} {U : Kind → Type}

open SessionM

/-! ## How a sealed store refuses -/

/-- Why a sealed store refuses a declaration. -/
def refusalWhenSealed (h : Handle I) (declared : List Target) : Refusal :=
  if declared.isEmpty then .nothingDeclared
  else match declared.find? (·.kind != h.kind) with
    | some t => .wrongKind h.kind t
    | none => .storeSealed

theorem refusalWhenSealed_eq_storeSealed_iff {h : Handle I} {declared : List Target} :
    refusalWhenSealed h declared = .storeSealed ↔
      declared ≠ [] ∧ ∀ t ∈ declared, t.kind = h.kind := by
  unfold refusalWhenSealed
  cases declared with
  | nil => simp
  | cons t rest =>
    cases found : (t :: rest).find? (·.kind != h.kind) with
    | none => simpa using found
    | some u =>
      have wrong : u.kind ≠ h.kind := by simpa using List.find?_some found
      simp only [List.isEmpty_cons, Bool.false_eq_true, if_false, reduceCtorEq, false_iff, not_and]
      exact fun _ all => wrong (all u (List.mem_of_find?_eq_some found))

variable [DecidableEq I]

theorem Store.accept_of_sealed {s : Store I} (closed : s.isSealed = true) (h : Handle I)
    (declared : List Target) : s.accept h declared = .error (refusalWhenSealed h declared) := by
  unfold Store.accept refusalWhenSealed
  simp only [isEmpty_eraseDups, find?_eraseDups, closed, if_true]
  split
  · rfl
  · cases declared.find? (·.kind != h.kind) <;> rfl

theorem Store.Grows.eq_of_sealed {s t : Store I} {log : List (Declaration I)}
    (grows : s.Grows log t) (closed : s.isSealed = true) : t = s := by
  induction grows with
  | refl => rfl
  | accept accepted =>
    rw [Store.accept_of_sealed closed] at accepted
    cases accepted
  | close _ ih => rw [ih (Store.isSealed_close _), Store.close_of_sealed closed]

section Calls

variable {r : Roster I H E U} {s t : Session I H}

omit [DecidableEq I] in
theorem sealStore_of_sealed (closed : s.store.isSealed = true) :
    sealStore s = .ok () s := by
  simp [sealStore, closed]

theorem takeIn_of_sealed (closed : s.store.isSealed = true) (label : String) (h : Handle I)
    (declared : List Target) (roundsLeft : Nat) :
    takeIn r h label declared (roundsLeft + 1) s =
      .ok (.error ⟨label, refusalWhenSealed h declared⟩) s := by
  refine takeIn_of_refused (Store.accept_of_sealed closed h declared) (fun target => ?_) roundsLeft
  unfold refusalWhenSealed
  split
  · nofun
  · split <;> nofun

/-- Within growth, a call leaves a sealed store alone. -/
theorem store_after_of_sealed {α : Type} {x : SessionM I H α} (hx : x.Obeys growth)
    (closed : s.store.isSealed = true) : (x.after s).store = s.store := by
  obtain ⟨log, grows⟩ := hx s
  exact grows.eq_of_sealed closed

/-- Neither the refusal nor the store depend on anything but the label that comes along. -/
theorem registerFor_of_sealed (hr : r.DeclaresUnder growth) (closed : s.store.isSealed = true)
    (h : Handle I) (declared : List Target) :
    registerFor r h declared s =
      ((fun label => .error ⟨label, refusalWhenSealed h declared⟩) <$> r.label h) s := by
  rw [registerFor, bind_apply, map_apply]
  cases labelled : r.label h s with
  | error crash t => rfl
  | ok label t =>
    have kept := store_after_of_sealed (hr.label h) closed
    rw [after_of_ok labelled] at kept
    rw [← kept] at closed
    exact takeIn_of_sealed closed label h declared _

theorem register_of_targets (hr : r.DeclaresUnder growth) (unsealed : s.store.isSealed = false)
    {h : Handle I} {declared : List Target} (targeted : r.targets h s = .ok declared t)
    (closed : t.store.isSealed = true) :
    register r h s =
      ((fun label => .error ⟨label, refusalWhenSealed h declared⟩) <$> r.label h) t := by
  rw [register_of_unsealed unsealed targeted, registerFor_of_sealed hr closed]

theorem registerAll_of_sealed (hr : r.DeclaresUnder growth) (closed : s.store.isSealed = true)
    (d : Declaration I) (rest : List (Declaration I)) :
    registerAll r (d :: rest) s =
      ((fun label => .error ⟨label, refusalWhenSealed d.1 d.2⟩) <$> r.label d.1) s := by
  rw [registerAll, bind_apply, registerFor_of_sealed hr closed, map_apply, map_apply]
  cases r.label d.1 s <;> rfl

theorem gather_of_contribution_sealed (hr : r.DeclaresUnder growth) {x : Service I H}
    {d : Declaration I} {rest : List (Declaration I)}
    (contributed : x.contribution r s = .ok (.ok (d :: rest)) t)
    (closed : t.store.isSealed = true) :
    x.gather r s = ((fun label => .error (.refused x.name ⟨label, refusalWhenSealed d.1 d.2⟩)) <$>
      r.label d.1) t := by
  have ran := registerAll_of_sealed hr closed d rest
  rw [map_apply] at ran ⊢
  cases labelled : r.label d.1 t with
  | error crash u =>
    rw [labelled] at ran
    simp only [Service.gather, bind_apply, contributed, ran]
  | ok label u =>
    rw [labelled] at ran
    exact Service.gather_of_refused contributed ran

end Calls

/-! ## Nothing is taken in -/

section Refused

variable {r : Roster I H E U} {s t : Session I H}

theorem registerFor_ne_ok (hr : r.DeclaresUnder growth) (closed : s.store.isSealed = true)
    (h : Handle I) (declared : List Target) (placed : List Placement) :
    registerFor r h declared s ≠ .ok (.ok placed) t := by
  rw [registerFor_of_sealed hr closed, map_apply]
  cases r.label h s <;> simp

theorem register_ne_ok (closed : s.store.isSealed = true) (h : Handle I)
    (placed : List Placement) : register r h s ≠ .ok (.ok placed) t := by
  rw [register_of_sealed closed, map_apply]
  cases r.label h s <;> simp

theorem gather_count_of_sealed (hr : r.DeclaresUnder growth) (closed : s.store.isSealed = true)
    {x : Service I H} (hx : x.EnumeratesUnder growth) {count : Nat}
    (ran : x.gather r s = .ok (.ok count) t) : count = 0 := by
  have asked : (x.contribution r).Obeys growth :=
    obeys_heritable.toComposable.contribution hr.heritable hx
  have kept := store_after_of_sealed asked closed
  cases contributed : x.contribution r s with
  | error crash u =>
    rw [Service.gather, bind_apply, contributed] at ran
    cases ran
  | ok result u =>
    rw [after_of_ok contributed] at kept
    rw [← kept] at closed
    rcases result with e | (_ | ⟨d, rest⟩)
    · rw [Service.gather_of_unavailable contributed] at ran
      cases ran
    · rw [Service.gather_of_registered contributed rfl] at ran
      cases ran
      rfl
    · rw [gather_of_contribution_sealed hr contributed closed, map_apply] at ran
      cases labelled : r.label d.1 u <;> rw [labelled] at ran <;> cases ran

theorem gatherEach_counts_of_sealed (hr : r.DeclaresUnder growth)
    (closed : s.store.isSealed = true) {services : List (Service I H)}
    (hx : ∀ x ∈ services, x.EnumeratesUnder growth) {g harvest : Harvest}
    (none : ∀ e ∈ g.gathered, e.2 = 0) (ran : gatherEach r g services s = .ok (.ok harvest) t) :
    ∀ e ∈ harvest.gathered, e.2 = 0 := by
  induction services generalizing g s with
  | nil => cases ran; exact none
  | cons x rest ih =>
    have hrest : ∀ y ∈ rest, y.EnumeratesUnder growth :=
      fun y hy => hx y (List.mem_cons_of_mem _ hy)
    have kept := store_after_of_sealed
      (gatherService_obeys growth_allowsChanges hr (hx x List.mem_cons_self)) closed
    cases gathered : x.gather r s with
    | error crash u =>
      rw [gatherEach, bind_apply, gathered] at ran
      cases ran
    | ok result u =>
      rw [after_of_ok gathered] at kept
      have later : u.store.isSealed = true := by rw [kept]; exact closed
      rcases result with (e | ⟨name, e⟩) | count
      · rw [gatherEach_of_unavailable gathered] at ran
        refine ih ?_ hrest ?_ ran
        · exact later
        · exact none
      · rw [gatherEach, bind_apply, gathered] at ran
        cases ran
      · rw [gatherEach, bind_apply, gathered] at ran
        refine ih later hrest (fun e he => ?_) ran
        rcases List.mem_append.1 he with he | he
        · exact none e he
        · rw [List.mem_singleton.1 he]
          exact gather_count_of_sealed hr closed (hx x List.mem_cons_self) gathered

theorem gatherAll_counts_of_sealed (hr : r.DeclaresUnder growth)
    (closed : s.store.isSealed = true) {ss : Services I H}
    (hx : ∀ x ∈ ss.list, x.EnumeratesUnder growth) {harvest : Harvest}
    (ran : ss.gather r s = .ok (.ok harvest) t) : ∀ e ∈ harvest.gathered, e.2 = 0 := by
  cases each : gatherEach r {} ss.list s with
  | error crash u =>
    rw [Services.gather, bind_apply, each] at ran
    cases ran
  | ok result u =>
    cases result with
    | error e => rw [Services.gather_of_error ss each] at ran; cases ran
    | ok g =>
      obtain ⟨v, gathered, -⟩ := Services.gather_of_ok ss each
      rw [gathered] at ran
      cases ran
      exact gatherEach_counts_of_sealed hr closed hx (by simp) each

end Refused

/-! ## The store for good -/

section Frozen

variable {P : Store I → H → Prop}

theorem sealed_changes (closed : ∀ {store host}, P store host → store.isSealed = true) :
    ChangesWith (Keeps P) where
  swap {store next h declared done} accepted s hs := by
    by_cases same : s.store = store
    · have refused := Store.accept_of_sealed (closed hs) h declared
      rw [same, accepted] at refused
      cases refused
    · rw [after_of_ok (swap_of_ne same next)]
      exact hs
  close s hs := by
    rw [after_of_ok (sealStore_of_sealed (closed hs))]
    exact hs
  crash _ _ hs := hs

variable [ClassShape U] {r : Roster I H E U} {s : Session I H} {requests : List (Request I H E U)}

theorem Request.store_runAll_of_sealed (hr : r.Under growth)
    (hq : ∀ q ∈ requests, q.EnumeratesWith (Obeys growth)) (closed : s.store.isSealed = true) :
    (runAll r requests s).store = s.store := by
  have keep : ∀ {α : Type} {x : SessionM I H α}, x.Obeys growth →
      x.Keeps fun store _ => store = s.store := by
    intro α x hx t ht
    rw [← ht] at closed
    exact (store_after_of_sealed hx closed).trans ht
  refine runAll_keeps (P := fun store _ => store = s.store) (sealed_changes ?_) ?_ ?_ ?_ s rfl
  · rintro store - rfl
    exact closed
  · exact fun k i => ⟨keep (hr.applies k i).label, fun b => keep ((hr.applies k i).vote b),
      fun u b => keep ((hr.applies k i).transform u b)⟩
  · exact ⟨fun h => keep (hr.declares.label h), fun h => keep (hr.declares.targets h)⟩
  · exact fun q h => (hq q h).mono keep

theorem Request.seen_of_sealed (hr : r.Under growth)
    (hq : ∀ q ∈ requests, q.EnumeratesWith (Obeys growth)) (closed : s.store.isSealed = true) :
    ∀ store ∈ seen r requests s, store = s.store := by
  -- What carries the run: the store is the sealed one, and so are all that have been noted.
  let P : Store I → H × List (Store I) → Prop :=
    fun store host => store = s.store ∧ ∀ u ∈ host.2, u = s.store
  have keep : ∀ {α : Type} {x : SessionM I H α}, x.Obeys growth → x.watched.Keeps P := by
    rintro α x hx t ⟨now, before⟩
    have sealedNow : t.withoutNotes.store.isSealed = true := by
      rw [Session.store_withoutNotes, now]
      exact closed
    rw [after_watched]
    refine ⟨(store_after_of_sealed hx sealedNow).trans now, fun u hu => ?_⟩
    rcases List.mem_append.1 hu with hu | hu
    · exact before u hu
    · rw [List.mem_singleton.1 hu]
      exact now
  have start : P s.store (s.host, []) := ⟨rfl, fun u hu => absurd hu List.not_mem_nil⟩
  refine (runAll_keeps (P := P) (sealed_changes ?_) (hr.applies.heritable.watched keep)
    (hr.declares.heritable.watched keep) ?_ (s.withNotes []) start).2
  · rintro store host ⟨rfl, -⟩
    exact closed
  · intro q h
    obtain ⟨q, hq', rfl⟩ := List.mem_map.1 h
    exact (hq q hq').watched keep

end Frozen

/-- A sealed store grows into no other, and every later look at it shows the same. No registration
is accepted, and no service is gathered but such as have no transformers. Where the store is sealed
by the questions of a registration or a gathering, that one is refused as well. -/
theorem sealed_for_good [ClassShape U] (r : Roster I H E U) (hr : r.Under growth) :
    (∀ s : Session I H, s.store.isSealed = true →
      (∀ store, growth.allows s.store store → store = s.store) ∧
      (∀ requests : List (Request I H E U), (∀ q ∈ requests, q.EnumeratesWith (Obeys growth)) →
        (Request.runAll r requests s).store = s.store ∧
        ∀ store ∈ Request.seen r requests s, store = s.store) ∧
      (∀ h placed t, register r h s ≠ .ok (.ok placed) t) ∧
      (∀ h declared placed t, registerFor r h declared s ≠ .ok (.ok placed) t) ∧
      (∀ x : Service I H, x.EnumeratesUnder growth →
        ∀ count t, x.gather r s = .ok (.ok count) t → count = 0) ∧
      ∀ ss : Services I H, (∀ x ∈ ss.list, x.EnumeratesUnder growth) →
        ∀ g t, ss.gather r s = .ok (.ok g) t → ∀ e ∈ g.gathered, e.2 = 0) ∧
    (∀ (s t : Session I H) (h : Handle I) (declared : List Target),
      s.store.isSealed = false → r.targets h s = .ok declared t → t.store.isSealed = true →
        register r h s =
          ((fun label => .error ⟨label, refusalWhenSealed h declared⟩) <$> r.label h) t ∧
        ((register r h).after s).store = t.store) ∧
    ∀ (s t : Session I H) (x : Service I H) (d : Declaration I) (rest : List (Declaration I)),
      x.Enumerates r s (d :: rest) t → t.store.isSealed = true →
        x.gather r s = ((fun label => .error (.refused x.name
          ⟨label, refusalWhenSealed d.1 d.2⟩)) <$> r.label d.1) t ∧
        ((x.gather r).after s).store = t.store := by
  have labelled : ∀ {β : Type} (f : String → β) (h : Handle I) (t : Session I H),
      t.store.isSealed = true → ((f <$> r.label h).after t).store = t.store :=
    fun f h t => store_after_of_sealed (obeys_heritable.map f (hr.declares.label h))
  refine ⟨fun s closed => ⟨?_, fun requests hq => ?_,
    fun h placed t => register_ne_ok closed h placed,
    fun h declared placed t => registerFor_ne_ok hr.declares closed h declared placed,
    fun x hx count t => gather_count_of_sealed hr.declares closed hx,
    fun ss hx g t => gatherAll_counts_of_sealed hr.declares closed hx⟩,
    fun s t h declared unsealed targeted closed => ?_, fun s t x d rest enumerated closed => ?_⟩
  · rintro store ⟨log, grows⟩
    exact grows.eq_of_sealed closed
  · exact ⟨Request.store_runAll_of_sealed hr hq closed, Request.seen_of_sealed hr hq closed⟩
  · have ran := register_of_targets hr.declares unsealed targeted closed
    refine ⟨ran, ?_⟩
    rw [after_congr ran]
    exact labelled _ h t closed
  · have ran := gather_of_contribution_sealed hr.declares enumerated.contribution_eq closed
    refine ⟨ran, ?_⟩
    rw [after_congr ran]
    exact labelled _ d.1 t closed

/-- A method transformer seals the store while it declares its targets. -/
theorem sealed_for_good_meddling :
    let s : Session Nat Unit := { store := .empty, host := () }
    let both : Service Nat Unit := ⟨"both", return .ok [⟨.cls, 1⟩, ⟨.field, 2⟩]⟩
    let requests : List (Request Nat Unit Unit PlainUnit) :=
      [.operation (.register ⟨.cls, 4⟩), .operation (.gather (.ofList [both])), .describe]
    ∃ label t, register meddling ⟨.method, 3⟩ s = .ok (.error ⟨label, .storeSealed⟩) t ∧
      t.store.snapshot.targets = [] ∧ (Request.runAll meddling requests t).store = t.store := by
  intro s both requests
  have sealing := sealed_for_good meddling meddling_under
  obtain ⟨t, targeted, closed, nothing⟩ : ∃ t : Session Nat Unit,
      meddling.targets ⟨.method, 3⟩ s = .ok [.ofMethod "B" "m" "()V"] t ∧
        t.store.isSealed = true ∧ t.store.snapshot.targets = [] := ⟨_, rfl, rfl, rfl⟩
  have refused := (sealing.2.1 s t ⟨.method, 3⟩ _ rfl targeted closed).1
  rw [refusalWhenSealed_eq_storeSealed_iff.2 (by simp)] at refused
  refine ⟨toString 3, t, refused, nothing, ?_⟩
  refine ((sealing.1 t closed).2.1 requests ?_).1
  simp only [requests, List.mem_cons, List.not_mem_nil, or_false]
  rintro q (rfl | rfl | rfl)
  · trivial
  · intro x hx
    rw [List.mem_singleton.1 hx]
    exact obeys_pure _
  · trivial

/-- Registering at a sealed store is refused because of the seal. So is gathering a service, as far
as the declaration of its first transformer has no fault of its own. -/
theorem sealed_refuses (r : Roster I H E U) (hr : r.DeclaresUnder growth) (s : Session I H)
    (closed : s.store.isSealed = true) :
    (∀ h, register r h s = ((fun label => .error ⟨label, .storeSealed⟩) <$> r.label h) s) ∧
    ∀ x : Service I H, x.EnumeratesUnder growth →
      ∀ d rest t, x.Enumerates r s (d :: rest) t →
        x.gather r s = ((fun label => .error (.refused x.name
          ⟨label, refusalWhenSealed d.1 d.2⟩)) <$> r.label d.1) t ∧
        (refusalWhenSealed d.1 d.2 = .storeSealed ↔
          d.2 ≠ [] ∧ ∀ target ∈ d.2, target.kind = d.1.kind) := by
  refine ⟨register_of_sealed closed, fun x hx d rest t enumerated =>
    ⟨?_, refusalWhenSealed_eq_storeSealed_iff⟩⟩
  obtain ⟨log, grows⟩ := enumerated.allows hx fun e _ => ⟨hr.label e.1, hr.targets e.1⟩
  rw [← grows.eq_of_sealed closed] at closed
  exact gather_of_contribution_sealed hr enumerated.contribution_eq closed

theorem sealed_refuses_declared :
    let r : Roster Nat Unit Unit PlainUnit := .marking fun _ => return [.ofClass "A"]
    let x : Service Nat Unit := ⟨"one", return .ok [⟨.cls, 1⟩, ⟨.field, 2⟩]⟩
    let s : Session Nat Unit := { store := Store.empty.close, host := () }
    x.gather r s = .ok (.error (.refused "one" ⟨toString 1, .storeSealed⟩)) s := by
  intro r x s
  have plain : r.Under growth := Roster.marking_under fun _ => obeys_pure _
  have enumerated : x.Enumerates r s
      [(⟨.cls, 1⟩, [.ofClass "A"]), (⟨.field, 2⟩, [.ofClass "A"])] s :=
    ⟨_, _, rfl, .cons rfl rfl (.cons rfl rfl (.nil _))⟩
  obtain ⟨gathered, because⟩ :=
    (sealed_refuses r plain.declares s rfl).2 x (obeys_pure _) _ _ _ enumerated
  rw [because.2 (by simp [Target.ofClass, Target.kind])] at gathered
  exact gathered

/-- A class transformer that declares nothing hears of the seal when it is registered itself, but not
when its service is gathered. -/
theorem sealed_refuses_empty :
    let r : Roster Unit Unit Unit PlainUnit :=
      ⟨fun _ _ => ⟨return "t", return [], fun _ => return .yes, fun unit _ => return .ok unit⟩⟩
    let x : Service Unit Unit := ⟨"s", return .ok [⟨.cls, ()⟩]⟩
    let s : Session Unit Unit := { store := Store.empty.close, host := () }
    s.store.isSealed = true ∧ x.Enumerates r s [(⟨.cls, ()⟩, [])] s ∧
      register r ⟨.cls, ()⟩ s = .ok (.error ⟨"t", .storeSealed⟩) s ∧
      x.gather r s = .ok (.error (.refused "s" ⟨"t", .nothingDeclared⟩)) s ∧
      ∀ label t, x.gather r s ≠ .ok (.error (.refused "s" ⟨label, .storeSealed⟩)) t := by
  intro r x s
  have gathered : x.gather r s = .ok (.error (.refused "s" ⟨"t", .nothingDeclared⟩)) s := rfl
  refine ⟨rfl, ⟨_, _, rfl, .cons rfl rfl (.nil _)⟩, rfl, gathered, fun label t sealing => ?_⟩
  rw [gathered] at sealing
  cases sealing

end TransformRegistry
