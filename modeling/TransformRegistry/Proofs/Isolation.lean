import TransformRegistry.Proofs.HandOver

/-!
# A broken service does not matter to the others

A service breaks off when it fails or crashes, or when one of its transformers crashes on giving its
label or its targets. If everyone answers the same way whenever asked, gathering all services leaves
the store as gathering those that do not break off.
-/

namespace TransformRegistry

variable {I H E α : Type} {U : Kind → Type}

open SessionM

/-! ## The same answer every time -/

/-- Leaves the store alone, and ends the same way whenever it is called while the host is in one of
the states that are quiet. -/
structure SessionM.Steady (quiet : H → Prop) (x : SessionM I H α) : Prop where
  calm : x.Calm quiet
  same : ∀ {s t : Session I H}, quiet s.host → quiet t.host → x.answer s = x.answer t

theorem calm_iff_keeps {quiet : H → Prop} {x : SessionM I H α} :
    x.Calm quiet ↔ ∀ store, x.Keeps fun s host => s = store ∧ quiet host := by
  constructor
  · rintro calm store s ⟨rfl, hs⟩
    exact calm s hs
  · exact fun keeps s hs => keeps s.store s ⟨rfl, hs⟩

theorem calm_composable (quiet : H → Prop) : Composable (I := I) (Calm quiet) where
  pure a := calm_iff_keeps.2 fun _ => (keeps_heritable _).pure a
  bind hx hf := by
    refine calm_iff_keeps.2 fun store => (keeps_heritable _).bind ?_ fun a => ?_
    · exact calm_iff_keeps.1 hx store
    · exact calm_iff_keeps.1 (hf a) store
  isolate hx := calm_iff_keeps.2 fun store =>
    (keeps_heritable _).isolate (calm_iff_keeps.1 hx store)

theorem steady_composable (quiet : H → Prop) : Composable (I := I) (Steady quiet) where
  pure a := ⟨(calm_composable quiet).pure a, fun _ _ => rfl⟩
  bind hx hf := by
    refine ⟨(calm_composable quiet).bind hx.calm fun a => (hf a).calm, fun hs ht => ?_⟩
    rw [answer_bind, answer_bind, hx.same hs ht]
    split
    · exact (hf _).same (hx.calm _ hs).2 (hx.calm _ ht).2
    · rfl
  isolate hx := by
    refine ⟨(calm_composable quiet).isolate hx.calm, fun hs ht => ?_⟩
    rw [answer_of_ok (isolate_apply _ _), answer_of_ok (isolate_apply _ _), hx.same hs ht]

/-! ## What a service has to offer -/

/-- What a transformer declares, by the answers that it gives in a session. -/
def declaration (r : Roster I H E U) (s : Session I H) (h : Handle I) :
    Except Crash (Declaration I) :=
  match (r.label h).answer s with
  | .error crash => .error crash
  | .ok _ =>
    match (r.targets h).answer s with
    | .error crash => .error crash
    | .ok targets => .ok (h, targets)

/-- The declarations of a service, or how it breaks off. -/
def Service.offer (r : Roster I H E U) (s : Session I H) (x : Service I H) :
    Except ServiceFault (List (Declaration I)) :=
  match x.transformers.answer s with
  | .error crash => .error (.crashed crash.text)
  | .ok (.error reason) => .error (.failed reason)
  | .ok (.ok handles) =>
    match handles.mapM (declaration r s) with
    | .error crash => .error (.crashed crash.text)
    | .ok declared => .ok declared

def Service.failure? (r : Roster I H E U) (s : Session I H) (x : Service I H) :
    Option ServiceError :=
  match x.offer r s with
  | .error fault => some ⟨x.name, fault⟩
  | .ok _ => none

section Offering

variable {r : Roster I H E U} {quiet : H → Prop} {s t : Session I H}

theorem declare_answer (hr : r.DeclaresWith (Steady quiet)) (hs : quiet s.host)
    (handles : List (Handle I)) :
    (declare r handles).answer s = handles.mapM (declaration r s) := by
  have steady : ∀ handles, (declare r handles).Steady quiet :=
    fun handles => (steady_composable quiet).declare hr
  induction handles with
  | nil => rfl
  | cons h rest ih =>
    obtain ⟨-, labelled⟩ := (hr.label h).calm s hs
    obtain ⟨-, declared⟩ := (hr.targets h).calm _ labelled
    -- Each call comes after others, but ends as it would have at the start.
    have targets := (hr.targets h).same labelled hs
    have others := (steady rest).same declared hs
    rw [List.mapM_cons, declaration, ← ih, declare, answer_bind, answer_discard, after_discard]
    cases (r.label h).answer s with
    | error crash => rfl
    | ok label =>
      simp only [Except.map, answer_bind, targets]
      cases (r.targets h).answer s with
      | error crash => rfl
      | ok ts =>
        simp only [others]
        cases (declare r rest).answer s <;> rfl

theorem contribution_answer (hr : r.DeclaresWith (Steady quiet)) (hs : quiet s.host)
    {x : Service I H} (hx : x.transformers.Steady quiet) :
    (x.contribution r).answer s = .ok ((x.offer r s).mapError (ServiceError.mk x.name)) := by
  rw [Service.contribution, answer_bind, answer_of_ok (isolate_apply _ s), Service.declarations,
    answer_bind, Service.offer]
  cases offered : x.transformers.answer s with
  | error crash => rfl
  | ok result =>
    cases result with
    | error reason => rfl
    | ok handles =>
      have steady : (declare r handles).Steady quiet := (steady_composable quiet).declare hr
      have later := steady.same (hx.calm s hs).2 hs
      simp only [answer_bind, later, declare_answer hr hs]
      cases handles.mapM (declaration r s) <;> rfl

theorem labelled_of_declaration {h : Handle I} {d : Declaration I}
    (given : declaration r s h = .ok d) : ∃ label, (r.label d.1).answer s = .ok label := by
  unfold declaration at given
  split at given
  · cases given
  · next label labelled =>
    split at given
    · cases given
    · cases given
      exact ⟨label, labelled⟩

theorem Service.labelled_of_offer {x : Service I H} {declared : List (Declaration I)}
    (offered : x.offer r s = .ok declared) :
    ∀ d ∈ declared, ∃ label, (r.label d.1).answer s = .ok label := by
  have all : ∀ (handles : List (Handle I)) (declared : List (Declaration I)),
      handles.mapM (declaration r s) = .ok declared →
        ∀ d ∈ declared, ∃ label, (r.label d.1).answer s = .ok label := by
    intro handles
    induction handles with
    | nil =>
      intro declared given d hd
      cases given
      cases hd
    | cons h rest ih =>
      intro declared given d hd
      rw [List.mapM_cons] at given
      cases first : declaration r s h with
      | error crash => rw [first] at given; cases given
      | ok one =>
        cases others : rest.mapM (declaration r s) with
        | error crash => rw [first, others] at given; cases given
        | ok more =>
          rw [first, others] at given
          cases given
          rcases List.mem_cons.1 hd with rfl | hd
          · exact labelled_of_declaration first
          · exact ih more others d hd
  unfold Service.offer at offered
  split at offered
  · cases offered
  · cases offered
  · split at offered
    · cases offered
    · next declarations => cases offered; exact all _ _ declarations

theorem contribution_steady (hr : r.DeclaresWith (Steady quiet)) (hs : quiet s.host)
    {x : Service I H} (hx : x.transformers.Steady quiet) (ht : quiet t.host) :
    ∃ u, x.contribution r t = .ok ((x.offer r s).mapError (ServiceError.mk x.name)) u ∧
      u.store = t.store ∧ quiet u.host := by
  have steady : (x.contribution r).Steady quiet := (steady_composable quiet).contribution hr hx
  have answered := contribution_answer hr hs hx
  rw [steady.same hs ht] at answered
  exact ⟨_, eq_ok_of_answer answered, steady.calm t ht⟩

end Offering

/-! ## One service in two sessions -/

variable [DecidableEq I]

section Twice

variable {r : Roster I H E U} {quiet : H → Prop} {s t u : Session I H}

omit [DecidableEq I] in
theorem Registered.unique (hr : ∀ h, (r.label h).Steady quiet) {done : Handover I}
    {one other : Except RegistrationError Unit} (first : Registered r quiet done one t)
    (second : Registered r quiet done other u) : one = other := by
  cases first with
  | through none =>
    cases second with
    | through => rfl
    | refused some => rw [none] at some; cases some
  | @refused d _ _ _ _ some labelled _ host =>
    cases second with
    | through none => rw [none] at some; cases some
    | refused same named _ also =>
      rw [some] at same
      cases same
      have labels := (hr d.1).same host also
      rw [answer_of_ok labelled, answer_of_ok named] at labels
      cases labels
      rfl

theorem Service.gather_of_fault (hr : r.DeclaresWith (Steady quiet)) (hs : quiet s.host)
    {x : Service I H} (hx : x.transformers.Steady quiet) (ht : quiet t.host) {fault : ServiceFault}
    (broken : x.offer r s = .error fault) :
    ∃ v, x.gather r t = .ok (.error (.unavailable ⟨x.name, fault⟩)) v ∧ v.store = t.store ∧
      quiet v.host := by
  obtain ⟨v, contributed, store, host⟩ := contribution_steady hr hs hx ht
  rw [broken] at contributed
  exact ⟨v, gather_of_unavailable contributed, store, host⟩

theorem Service.gather_twice (hr : r.DeclaresWith (Steady quiet)) (hs : quiet s.host)
    {x : Service I H} (hx : x.transformers.Steady quiet) (ht : quiet t.host) (hu : quiet u.host)
    (same : t.store = u.store) {declared : List (Declaration I)}
    (offered : x.offer r s = .ok declared) :
    ∃ (result : Except RegistrationError Nat) (v w : Session I H),
      x.gather r t = .ok (result.mapError (.refused x.name)) v ∧
      x.gather r u = .ok (result.mapError (.refused x.name)) w ∧
      v.store = w.store ∧ quiet v.host ∧ quiet w.host := by
  have labelled : ∀ d ∈ declared, ∀ v : Session I H, quiet v.host →
      ∃ label, (r.label d.1).answer v = .ok label := by
    intro d hd v hv
    rw [(hr.label d.1).same hv hs]
    exact Service.labelled_of_offer offered d hd
  have calm : ∀ d ∈ declared, (r.label d.1).Calm quiet := fun d _ => (hr.label d.1).calm
  obtain ⟨v, contributed, store, hv⟩ := contribution_steady hr hs hx ht
  obtain ⟨w, again, also, hw⟩ := contribution_steady hr hs hx hu
  rw [offered] at contributed again
  obtain ⟨verdict, v', ran, ended⟩ := registerAll_registered calm labelled v hv
  obtain ⟨other, w', rerun, ended'⟩ := registerAll_registered calm labelled w hw
  rw [store, same] at ended
  rw [also] at ended'
  cases ended.unique hr.label ended'
  have stores := ended.store_eq.1.trans ended'.store_eq.1.symm
  have hosts := And.intro ended.store_eq.2 ended'.store_eq.2
  cases verdict with
  | error e =>
    exact ⟨.error e, _, _, gather_of_refused contributed ran, gather_of_refused again rerun, stores,
      hosts⟩
  | ok _ =>
    exact ⟨.ok declared.length, _, _, gather_of_registered contributed ran,
      gather_of_registered again rerun, stores, hosts⟩

end Twice

/-! ## All services, and those that do not break off -/

section Reduced

variable {r : Roster I H E U} {quiet : H → Prop} {s t u : Session I H}

/-- All services, and those that do not break off, in two sessions with one store. -/
theorem gatherEach_reduced (hr : r.DeclaresWith (Steady quiet)) (hs : quiet s.host)
    {services : List (Service I H)} (hx : ∀ x ∈ services, x.transformers.Steady quiet)
    (ht : quiet t.host) (hu : quiet u.host) (same : t.store = u.store)
    (gathered : List (String × Nat)) (failures : List ServiceError) :
    ∃ (result : Except GatherFailure (List (String × Nat))) (v w : Session I H),
      gatherEach r ⟨gathered, failures⟩ services t = .ok (result.map fun gathered =>
        ⟨gathered, failures ++ services.filterMap (Service.failure? r s)⟩) v ∧
      gatherEach r ⟨gathered, []⟩ (services.filter fun x => (x.failure? r s).isNone) u =
        .ok (result.map fun gathered => ⟨gathered, []⟩) w ∧
      v.store = w.store ∧
      ∀ e, result = .error e → ∃ x ∈ services, ∃ cause, e = .refused x.name cause := by
  induction services generalizing t u gathered failures with
  | nil => exact ⟨.ok gathered, t, u, by simp [gatherEach, Except.map], rfl, same, nofun⟩
  | cons x rest ih =>
    have hrest : ∀ y ∈ rest, y.transformers.Steady quiet :=
      fun y hy => hx y (List.mem_cons_of_mem _ hy)
    have steady := hx x List.mem_cons_self
    cases offered : x.offer r s with
    | error fault =>
      have broken : x.failure? r s = some ⟨x.name, fault⟩ := by rw [Service.failure?, offered]
      obtain ⟨v, ran, store, hv⟩ := Service.gather_of_fault hr hs steady ht offered
      let skipped := Event.serviceSkipped x.name (ServiceError.mk x.name fault).message
      obtain ⟨result, v', w, all, reduced, stores, refusals⟩ :=
        ih hrest (t := { v with events := v.events ++ [skipped] }) hv hu (store.trans same)
          gathered (failures ++ [⟨x.name, fault⟩])
      refine ⟨result, v', w, ?_, ?_, stores, fun e he => ?_⟩
      · rw [gatherEach_of_unavailable ran, all, List.filterMap_cons, broken]
        simp only [List.append_assoc, List.singleton_append]
      · rw [List.filter_cons, broken]
        exact reduced
      · obtain ⟨y, hy, cause, refused⟩ := refusals e he
        exact ⟨y, List.mem_cons_of_mem _ hy, cause, refused⟩
    | ok declared =>
      have sound : x.failure? r s = none := by rw [Service.failure?, offered]
      obtain ⟨verdict, v, w, ran, rerun, stores, hv, hw⟩ :=
        Service.gather_twice hr hs steady ht hu same offered
      rw [List.filterMap_cons, List.filter_cons, sound]
      simp only [Option.isNone_none, if_true, gatherEach, bind_apply, ran, rerun]
      cases verdict with
      | error cause =>
        exact ⟨.error (.refused x.name cause), v, w, rfl, rfl, stores,
          fun e he => ⟨x, List.mem_cons_self, cause, by cases he; rfl⟩⟩
      | ok count =>
        obtain ⟨result, v', w', all, reduced, stores, refusals⟩ :=
          ih hrest hv hw stores (gathered ++ [(x.name, count)]) failures
        refine ⟨result, v', w', all, reduced, stores, fun e he => ?_⟩
        obtain ⟨y, hy, cause, refused⟩ := refusals e he
        exact ⟨y, List.mem_cons_of_mem _ hy, cause, refused⟩

end Reduced

/-- Where everyone answers the same way whenever called and leaves the store alone, the services
that break off are the failures of the harvest, in order. Besides, gathering ends as if they were
not there, with the same store. -/
theorem gather_unbroken (r : Roster I H E U) (ss : Services I H) (quiet : H → Prop)
    (hr : r.DeclaresWith (Steady quiet)) (hx : ∀ x ∈ ss.list, x.transformers.Steady quiet)
    (s : Session I H) (hs : quiet s.host) :
    let failures := ss.list.filterMap (Service.failure? r s)
    let unbroken := Services.ofList (ss.list.filter fun x => (x.failure? r s).isNone)
    ∃ (result : Except GatherFailure (List (String × Nat))) (t u : Session I H),
      ss.gather r s = .ok (result.map fun gathered => ⟨gathered, failures⟩) t ∧
      unbroken.gather r s = .ok (result.map fun gathered => ⟨gathered, []⟩) u ∧
      t.store = u.store ∧
      ∀ e, result = .error e → ∃ x ∈ ss.list, ∃ cause, e = .refused x.name cause := by
  intro failures unbroken
  obtain ⟨result, t, u, all, reduced, stores, refusals⟩ :=
    gatherEach_reduced hr hs hx hs hs rfl [] []
  rw [List.nil_append] at all
  cases result with
  | error e =>
    exact ⟨.error e, t, u, Services.gather_of_error ss all,
      Services.gather_of_error unbroken reduced, stores, refusals⟩
  | ok gathered =>
    obtain ⟨t', ran, store⟩ := Services.gather_of_ok ss all
    obtain ⟨u', rerun, also⟩ := Services.gather_of_ok unbroken reduced
    rw [stores, ← also] at store
    exact ⟨.ok gathered, t', u', ran, rerun, store, refusals⟩

/-- One service breaks off after a transformer has declared its targets, and one has none. -/
theorem gather_unbroken_two :
    let r : Roster Nat Unit Unit PlainUnit := .marking fun h =>
      if h.id = 9 then crash ⟨some "torn"⟩ else return [.ofClass "A"]
    let whole : Service Nat Unit := ⟨"whole", return .ok [⟨.cls, 1⟩]⟩
    let torn : Service Nat Unit := ⟨"torn", return .ok [⟨.cls, 2⟩, ⟨.cls, 9⟩, ⟨.cls, 3⟩]⟩
    let bare : Service Nat Unit := ⟨"bare", return .error "none left"⟩
    let last : Service Nat Unit := ⟨"last", return .ok [⟨.cls, 4⟩, ⟨.cls, 5⟩]⟩
    let s : Session Nat Unit := { store := .empty, host := () }
    ∃ t, (Services.ofList [whole, torn, bare, last]).gather r s = .ok (.ok
        ⟨[("whole", 1), ("last", 2)], [⟨"torn", .crashed "torn"⟩, ⟨"bare", .failed "none left"⟩]⟩) t ∧
      t.store.snapshot.handlesFor (.ofClass "A") = [⟨.cls, 1⟩, ⟨.cls, 4⟩, ⟨.cls, 5⟩] := by
  intro r whole torn bare last s
  have plain : ∀ {α : Type} (a : α), Steady (fun _ => True) (return a : SessionM Nat Unit α) :=
    fun a => (steady_composable _).pure a
  have declares : r.DeclaresWith (Steady fun _ => True) := by
    refine ⟨fun _ => plain _, fun h => ?_⟩
    change Steady _ (if h.id = 9 then crash ⟨some "torn"⟩ else return [Target.ofClass "A"])
    split
    · exact ⟨fun _ _ => ⟨rfl, trivial⟩, fun _ _ => rfl⟩
    · exact plain _
  obtain ⟨result, t, u, all, reduced, stores, -⟩ :=
    gather_unbroken r (.ofList [whole, torn, bare, last]) (fun _ => True) declares (by
      simp only [Services.list_ofList, List.mem_cons, List.not_mem_nil, or_false]
      rintro x (rfl | rfl | rfl | rfl) <;> exact plain _) s trivial
  -- What is left of the services is known before they are gathered.
  change (Services.ofList [whole, last]).gather r s = _ at reduced
  have ends : (((Services.ofList [whole, last]).gather r).answer s).toOption.bind Except.toOption =
      some ⟨[("whole", 1), ("last", 2)], []⟩ := by
    decide +kernel
  rw [answer_of_ok reduced] at ends
  have left : (((Services.ofList [whole, last]).gather r).after s).store.snapshot.handlesFor
      (.ofClass "A") = [⟨.cls, 1⟩, ⟨.cls, 4⟩, ⟨.cls, 5⟩] := by
    decide +kernel
  rw [after_of_ok reduced, ← stores] at left
  cases result with
  | error e => cases ends
  | ok gathered =>
    cases ends
    exact ⟨t, all, left⟩

end TransformRegistry
