import TransformRegistry.Proofs.Accepted
import TransformRegistry.Proofs.Isolation

/-!
# Gathering again

Everything that a first gathering hands over is in the store when a second one hands it over again.
What then happens is for the policy to say: either nothing at all, or the first declaration is
refused.
-/

namespace TransformRegistry

variable {I H E : Type} {U : Kind → Type} [DecidableEq I]

open SessionM

/-! ## Instances that a snapshot lists -/

/-- The snapshot knows the target, and the index of the kind has the instance under it. -/
structure Snapshot.Lists (s : Snapshot I) (h : Handle I) (t : Target) : Prop where
  index : ∃ ix, s.indexes.get h.kind = some ix ∧ ix.kind = t.kind ∧ h.id ∈ ix.sequence t
  target : t ∈ s.targets
  owner : t.owner ∈ s.owners

namespace Snapshot

variable {s next : Snapshot I} {policy : RepeatPolicy} {h g : Handle I} {t u : Target}
  {ts : List Target}

theorem insertOne_eq_ok {placement : Placement}
    (inserted : s.insertOne policy h t = .ok (placement, next)) :
    t.kind = (s.indexOf h.kind).kind ∧ next = put h s t := by
  unfold insertOne at inserted
  cases placed : (s.indexOf h.kind).insert policy t h.id with
  | error refusal =>
    rw [placed] at inserted
    cases inserted
  | ok result =>
    obtain ⟨_, ix⟩ := result
    rw [placed] at inserted
    cases inserted
    refine ⟨?_, by rw [TargetIndex.insert_eq_ok placed]; rfl⟩
    unfold TargetIndex.insert at placed
    split at placed
    · cases placed
    · next ofKind => exact Decidable.not_not.1 ofKind

theorem lists_put (kind : t.kind = (s.indexOf h.kind).kind) : (put h s t).Lists h t where
  index := by
    refine ⟨(s.indexOf h.kind).put t h.id, ?_, ?_, TargetIndex.self_mem_sequence_put ..⟩
    · rw [get_put, if_pos rfl]
    · rw [TargetIndex.kind_put, kind]
  target := List.mem_insert_self
  owner := List.mem_insert_self

theorem Lists.put (listed : s.Lists g u) (h : Handle I) (t : Target) :
    (put h s t).Lists g u where
  index := by
    obtain ⟨ix, found, kind, present⟩ := listed.index
    by_cases same : g.kind = h.kind
    · have here : s.indexOf h.kind = ix := by rw [indexOf, ← same, found, Option.getD_some]
      refine ⟨ix.put t h.id, ?_, ?_, TargetIndex.mem_sequence_put present t h.id⟩
      · rw [get_put, if_pos same, here]
      · rw [TargetIndex.kind_put, kind]
    · exact ⟨ix, by rw [get_put, if_neg same, found], kind, present⟩
  target := List.mem_insert_of_mem listed.target
  owner := List.mem_insert_of_mem listed.owner

omit [DecidableEq I] in
theorem Lists.close (listed : s.Lists h t) : s.close.Lists h t :=
  ⟨listed.index, listed.target, listed.owner⟩

theorem lists_of_insert {placements : List Placement}
    (inserted : s.insert policy h ts = .ok (placements, next)) :
    (∀ t ∈ ts, next.Lists h t) ∧ ∀ g u, s.Lists g u → next.Lists g u := by
  induction ts generalizing s placements with
  | nil =>
    cases inserted
    exact ⟨nofun, fun _ _ listed => listed⟩
  | cons t rest ih =>
    unfold insert at inserted
    cases first : s.insertOne policy h t with
    | error refusal =>
      rw [first] at inserted
      cases inserted
    | ok one =>
      obtain ⟨placement, after⟩ := one
      rw [first] at inserted
      cases later : after.insert policy h rest with
      | error refusal =>
        simp only [later] at inserted
        cases inserted
      | ok more =>
        simp only [later] at inserted
        cases inserted
        obtain ⟨kind, rfl⟩ := insertOne_eq_ok first
        obtain ⟨others, kept⟩ := ih later
        refine ⟨List.forall_mem_cons.2 ⟨kept h t (lists_put kind), others⟩, fun g u listed => ?_⟩
        exact kept g u (listed.put h t)

/-! ## Handing over what is listed -/

omit [DecidableEq I] in
theorem Lists.sequence (listed : s.Lists h t) :
    t.kind = (s.indexOf h.kind).kind ∧ h.id ∈ (s.indexOf h.kind).sequence t ∧
      s.indexes.set h.kind (some (s.indexOf h.kind)) = s.indexes := by
  obtain ⟨ix, found, kind, present⟩ := listed.index
  have here : s.indexOf h.kind = ix := by rw [indexOf, found, Option.getD_some]
  rw [here]
  refine ⟨kind.symm, present, ?_⟩
  rw [← found]
  cases h.kind <;> rfl

theorem insertOne_ignored (listed : s.Lists h t) :
    s.insertOne .ignore h t = .ok (.alreadyThere, s) := by
  obtain ⟨kind, present, same⟩ := listed.sequence
  have placed : (s.indexOf h.kind).insert .ignore t h.id =
      .ok (.alreadyThere, s.indexOf h.kind) := by
    rw [TargetIndex.insert, if_neg (not_not_intro kind), if_pos present]
  rw [insertOne, placed]
  dsimp only
  rw [same, List.insert_of_mem listed.target, List.insert_of_mem listed.owner]

theorem insertOne_rejected (listed : s.Lists h t) :
    s.insertOne .reject h t = .error (.alreadyRegistered t) := by
  obtain ⟨kind, present, -⟩ := listed.sequence
  have placed : (s.indexOf h.kind).insert .reject t h.id = .error (.alreadyRegistered t) := by
    rw [TargetIndex.insert, if_neg (not_not_intro kind), if_pos present]
  rw [insertOne, placed]

theorem insert_ignored (listed : ∀ t ∈ ts, s.Lists h t) :
    s.insert .ignore h ts = .ok (ts.map fun _ => .alreadyThere, s) := by
  induction ts with
  | nil => rfl
  | cons t rest ih =>
    rw [List.forall_mem_cons] at listed
    rw [insert, insertOne_ignored listed.1]
    dsimp only
    rw [ih listed.2]
    rfl

end Snapshot

namespace Store

variable {s t next : Store I} {h : Handle I} {declared : List Target} {d : Declaration I}

/-- A declaration that the store could have taken in, and did. -/
structure Knows (s : Store I) (d : Declaration I) : Prop where
  declares : d.2 ≠ []
  ofKind : ∀ t ∈ d.2, t.kind = d.1.kind
  lists : ∀ t ∈ d.2, s.snapshot.Lists d.1 t

theorem insert_of_accept {done : List (Target × Placement)}
    (accepted : s.accept h declared = .ok (done, next)) :
    declared ≠ [] ∧ ∃ placements, s.snapshot.insert s.settings.repeats h declared.eraseDups =
      .ok (placements, next.snapshot) := by
  unfold accept at accepted
  simp only at accepted
  split at accepted
  · cases accepted
  · next some =>
    split at accepted
    · cases accepted
    · split at accepted
      · cases accepted
      · split at accepted
        · cases accepted
        · next placements last inserted =>
          cases accepted
          refine ⟨?_, placements, inserted⟩
          rintro rfl
          exact some rfl

/-- All that a store has taken in, it knows. -/
theorem Grows.knows {log : List (Declaration I)} (grows : s.Grows log t) :
    ∀ d ∈ log, t.Knows d := by
  induction grows with
  | refl => exact nofun
  | close _ ih => exact ih
  | @accept s t u h declared done log accepted rest ih =>
    obtain ⟨some, placements, inserted⟩ := insert_of_accept accepted
    obtain ⟨-, ofKind, -⟩ := accept_eq_ok accepted
    refine List.forall_mem_cons.2 ⟨⟨some, ofKind, fun target ht => ?_⟩, ih⟩
    have listed := (Snapshot.lists_of_insert inserted).1 target (List.mem_eraseDups.2 ht)
    refine rest.invariant (P := fun s => s.snapshot.Lists h target) ?_ ?_ listed
    · intro s t g declared done hs accepted
      obtain ⟨-, placements, inserted⟩ := insert_of_accept accepted
      exact (Snapshot.lists_of_insert inserted).2 h target hs
    · intro s hs
      rw [snapshot_close]
      exact hs.close

theorem accept_of_knows (known : s.Knows d) (unsealed : s.isSealed = false) :
    s.accept d.1 d.2 = match s.snapshot.insert s.settings.repeats d.1 d.2.eraseDups with
      | .error refusal => .error refusal
      | .ok (placements, next) => .ok (d.2.eraseDups.zip placements, s.publish next) := by
  have right : d.2.find? (·.kind != d.1.kind) = none := by
    simpa [List.find?_eq_none] using known.ofKind
  unfold accept
  simp only [isEmpty_eraseDups, find?_eraseDups, List.isEmpty_eq_false_iff.2 known.declares, right,
    unsealed]
  rfl

/-- What a store knows makes no difference to its snapshot, or is refused. -/
theorem accept_ignored (known : s.Knows d) (unsealed : s.isSealed = false)
    (ignores : s.settings.repeats = .ignore) :
    ∃ done, s.accept d.1 d.2 = .ok (done, s.publish s.snapshot) := by
  have inserted : s.snapshot.insert .ignore d.1 d.2.eraseDups = _ :=
    Snapshot.insert_ignored fun t ht => known.lists t (List.mem_eraseDups.1 ht)
  rw [accept_of_knows known unsealed, ignores, inserted]
  exact ⟨_, rfl⟩

theorem accept_rejected (known : s.Knows d) (unsealed : s.isSealed = false)
    (rejects : s.settings.repeats = .reject) {target : Target} {more : List Target}
    (declared : d.2 = target :: more) :
    s.accept d.1 d.2 = .error (.alreadyRegistered target) := by
  have listed := known.lists target (declared ▸ List.mem_cons_self)
  rw [accept_of_knows known unsealed, rejects, declared, List.eraseDups_cons, Snapshot.insert,
    Snapshot.insertOne_rejected listed]

/-- A store that ignores repeats takes all that it knows once more, and has the same snapshot after
that. -/
theorem handOver_ignored {log : List (Declaration I)} (known : ∀ d ∈ log, s.Knows d)
    (unsealed : log ≠ [] → s.isSealed = false) (ignores : s.settings.repeats = .ignore) :
    (s.handOver log).refused? = none ∧ (s.handOver log).store.snapshot = s.snapshot := by
  induction log generalizing s with
  | nil => exact ⟨rfl, rfl⟩
  | cons d rest ih =>
    have still := unsealed (List.cons_ne_nil _ _)
    rw [List.forall_mem_cons] at known
    obtain ⟨done, accepted⟩ := accept_ignored known.1 still ignores
    rw [handOver_cons_of_ok accepted]
    have later : ∀ e ∈ rest, (s.publish s.snapshot).Knows e := fun e he =>
      ⟨(known.2 e he).declares, (known.2 e he).ofKind, (known.2 e he).lists⟩
    exact ih later (fun _ => still) ignores

theorem unsealed_of_handOver {log : List (Declaration I)}
    (through : (s.handOver log).refused? = none) (some : log ≠ []) : s.isSealed = false := by
  obtain ⟨d, rest, rfl⟩ := List.exists_cons_of_ne_nil some
  cases answer : s.accept d.1 d.2 with
  | error refusal =>
    rw [handOver_cons_of_error answer] at through
    cases through
  | ok result => exact (accept_eq_ok answer).1

end Store

/-! ## Services that always offer the same -/

/-- Asked in a quiet session, the service comes up with the same every time, or fails in the same
way, and leaves the store alone. So do its transformers when they give their labels. -/
structure Contributes (r : Roster I H E U) (quiet : H → Prop) (x : Service I H)
    (offer : Offer I) : Prop where
  calm : (x.contribution r).Calm quiet
  same : ∀ s, quiet s.host → (x.contribution r).answer s = .ok offer
  labels : ∀ d ∈ offer.declared, (r.label d.1).Calm quiet
  labelled : ∀ d ∈ offer.declared, ∀ s, quiet s.host → ∃ label, (r.label d.1).answer s = .ok label

omit [DecidableEq I] in
theorem contributes_of_steady {r : Roster I H E U} {quiet : H → Prop} {x : Service I H}
    {s : Session I H} (hr : r.DeclaresWith (Steady quiet)) (hx : x.transformers.Steady quiet)
    (hs : quiet s.host) :
    Contributes r quiet x ((x.offer r s).mapError (ServiceError.mk x.name)) where
  calm := ((steady_composable quiet).contribution hr hx).calm
  same t ht := by
    obtain ⟨u, contributed, -⟩ := contribution_steady hr hs hx ht
    exact answer_of_ok contributed
  labels d _ := (hr.label d.1).calm
  labelled d hd t ht := by
    rw [(hr.label d.1).same ht hs]
    cases offered : x.offer r s with
    | error fault =>
      rw [offered] at hd
      cases hd
    | ok declared =>
      rw [offered] at hd
      exact Service.labelled_of_offer offered d hd

section Gathering

variable {r : Roster I H E U} {quiet : H → Prop} {x : Service I H} {s : Session I H}
  {offers : List (Service I H × Offer I)}

omit [DecidableEq I] in
theorem Contributes.makes {offer : Offer I} (hx : Contributes r quiet x offer)
    (hs : quiet s.host) : x.Makes r quiet s offer ((x.contribution r).after s) where
  contributed := eq_ok_of_answer (hx.same s hs)
  store := (hx.calm s hs).1
  host := (hx.calm s hs).2
  labels := hx.labels
  labelled := hx.labelled

theorem made_of_contributes (ho : ∀ o ∈ offers, Contributes r quiet o.1 o.2) (hs : quiet s.host) :
    MadeInTurn r quiet s offers := by
  induction offers generalizing s with
  | nil => exact .nil hs
  | cons o rest ih =>
    obtain ⟨x, offer⟩ := o
    rw [List.forall_mem_cons] at ho
    have made := ho.1.makes hs
    cases offer with
    | error e => exact .failed made (ih ho.2 made.host)
    | ok declared => exact .offered made (ih ho.2 made.quiet_gather)

/-! ## All services, twice -/

section Whole

theorem Services.gather_of_unsealed (ss : Services I H) {g : Harvest} {t : Session I H}
    (ran : gatherEach r {} ss.list s = .ok (.ok g) t)
    (stays : t.store.settings.sealAfterGather = false) :
    ∃ events, ss.gather r s = .ok (.ok g) { t with events } := by
  unfold Services.gather
  simp only [bind_apply, ran, getStore_apply, stays]
  exact ⟨_, rfl⟩

theorem gather_of_none (ho : ∀ o ∈ offers, Contributes r quiet o.1 o.2) (hs : quiet s.host)
    (stays : s.store.settings.sealAfterGather = false)
    (through : (s.store.handOver (allDeclared offers)).refused? = none) :
    ∃ t, (Services.ofList (offers.map (·.1))).gather r s = .ok (.ok (harvest offers)) t ∧
      t.store = (s.store.handOver (allDeclared offers)).store ∧ quiet t.host := by
  obtain ⟨t, ran, store, ht⟩ := (made_of_contributes ho hs).gatherEach_of_none {} through
  have settings : t.store.settings.sealAfterGather = false := by
    rw [store, (s.store.handOver_keeps _).1, stays]
  obtain ⟨events, gathered⟩ := Services.gather_of_unsealed (.ofList (offers.map (·.1))) ran settings
  exact ⟨_, gathered, store, ht⟩

theorem handOver_of_gather (ho : ∀ o ∈ offers, Contributes r quiet o.1 o.2) (hs : quiet s.host)
    (stays : s.store.settings.sealAfterGather = false) {g : Harvest} {t : Session I H}
    (ran : (Services.ofList (offers.map (·.1))).gather r s = .ok (.ok g) t) :
    g = harvest offers ∧ (s.store.handOver (allDeclared offers)).refused? = none ∧
      t.store = (s.store.handOver (allDeclared offers)).store ∧ quiet t.host := by
  cases through : (s.store.handOver (allDeclared offers)).refused? with
  | none =>
    obtain ⟨u, gathered, store, hu⟩ := gather_of_none ho hs stays through
    rw [ran] at gathered
    cases gathered
    exact ⟨rfl, rfl, store, hu⟩
  | some found =>
    obtain ⟨before, x, own, rest, after, rfl, -, label, u, v, -, -, -, stops⟩ :=
      (made_of_contributes ho hs).gatherEach_of_some through
    rw [List.map_append, List.map_cons,
      Services.gather_of_error (.ofList _) (stops {} (after.map (·.1)))] at ran
    cases ran

end Whole

end Gathering

/-- Services that offer the same whenever they are asked are gathered a second time. If repeats are
ignored, the answer is the same, and so is the snapshot. If they are rejected, the first transformer
that had been registered is refused for its first target, and the store is as it was. -/
theorem gather_again (r : Roster I H E U) (quiet : H → Prop)
    (offers : List (Service I H × Offer I)) (ho : ∀ o ∈ offers, Contributes r quiet o.1 o.2)
    (s : Session I H) (hs : quiet s.host)
    (stays : s.store.settings.sealAfterGather = false) (g : Harvest) (t : Session I H)
    (ran : (Services.ofList (offers.map (·.1))).gather r s = .ok (.ok g) t) :
    g = harvest offers ∧ s.store.Grows (allDeclared offers) t.store ∧
      (s.store.settings.repeats = .ignore →
        ∃ u, (Services.ofList (offers.map (·.1))).gather r t = .ok (.ok g) u ∧
          u.store.settings = t.store.settings ∧ u.store.snapshot = t.store.snapshot) ∧
      (s.store.settings.repeats = .reject → 0 < g.total →
        ∃ d rest target more, allDeclared offers = d :: rest ∧ d.2 = target :: more ∧
          ∃ before x own after, offers = before ++ (x, .ok (d :: own)) :: after ∧
            allDeclared before = [] ∧
            ∃ label u v, r.label d.1 u = .ok label v ∧
              (Services.ofList (offers.map (·.1))).gather r t =
                .ok (.error (.refused x.name ⟨label, .alreadyRegistered target⟩)) v ∧
              v.store = t.store) := by
  obtain ⟨rfl, through, store, ht⟩ := handOver_of_gather ho hs stays ran
  have grows := s.store.handOver_grows (allDeclared offers)
  rw [Store.taken_handOver_of_none through, ← store] at grows
  obtain ⟨settings, flag⟩ := s.store.handOver_keeps (allDeclared offers)
  rw [← store] at settings flag
  have unsealed : allDeclared offers ≠ [] → t.store.isSealed = false := fun some =>
    flag.trans (Store.unsealed_of_handOver through some)
  have known := grows.knows
  have stays' : t.store.settings.sealAfterGather = false := by rw [settings, stays]
  refine ⟨rfl, grows, fun ignores => ?_, fun rejects some => ?_⟩
  · obtain ⟨again, same⟩ := Store.handOver_ignored known unsealed (by rw [settings, ignores])
    obtain ⟨u, gathered, final, -⟩ := gather_of_none ho ht stays' again
    refine ⟨u, gathered, ?_, ?_⟩
    · rw [final, (t.store.handOver_keeps _).1]
    · rw [final, same]
  · rw [total_harvest] at some
    obtain ⟨d, rest, all⟩ := List.exists_cons_of_length_pos some
    rw [all] at known unsealed
    have first := known d List.mem_cons_self
    obtain ⟨target, more, declared⟩ := List.exists_cons_of_ne_nil first.declares
    have refused := Store.accept_rejected first (unsealed (List.cons_ne_nil _ _))
      (by rw [settings, rejects]) declared
    have stops := Store.handOver_cons_of_error refused rest
    rw [← all] at stops
    obtain ⟨before, x, own, later, after, split, taken, label, u, v, labelled, -, final, stopped⟩ :=
      (made_of_contributes ho ht).gatherEach_of_some (congrArg Handover.refused? stops)
    rw [stops] at taken final
    obtain ⟨nothing, rfl⟩ := List.append_eq_nil_iff.1 taken.symm
    refine ⟨d, rest, target, more, all, declared, before, x, later, after, split, nothing, label, u,
      v, labelled, ?_, final⟩
    rw [split, List.map_append, List.map_cons]
    exact Services.gather_of_error (.ofList _) (stopped {} _)

/-- Services with fixed names that always offer these transformers, or always fail for this reason,
with what they come up with. All transformers declare two classes. -/
def fixedOffers (fixed : List (String × Except String (List (Handle Nat)))) :
    List (Service Nat Unit × Offer Nat) :=
  fixed.map fun o =>
    let x : Service Nat Unit := ⟨o.1, return o.2⟩
    (x, (x.offer twoClasses { store := .empty, host := () }).mapError (ServiceError.mk o.1))

theorem contributes_fixedOffers (fixed : List (String × Except String (List (Handle Nat)))) :
    ∀ o ∈ fixedOffers fixed, Contributes twoClasses (fun _ => True) o.1 o.2 := by
  have steady : twoClasses.DeclaresWith (Steady fun _ => True) :=
    ⟨fun _ => (steady_composable _).pure _, fun _ => (steady_composable _).pure _⟩
  exact List.forall_mem_map.2 fun o _ =>
    contributes_of_steady steady ((steady_composable _).pure _) trivial

/-- One service fails, and the others offer the first of two transformers three times. To offer it
once is enough to be refused if repeats are rejected. -/
theorem gather_again_fixed :
    let offers := fixedOffers [("down", .error "no reason"),
      ("twice", .ok [⟨.cls, 1⟩, ⟨.cls, 1⟩]), ("both", .ok [⟨.cls, 2⟩, ⟨.cls, 1⟩])]
    let fewer := fixedOffers [("down", .error "no reason"), ("once", .ok [⟨.cls, 1⟩])]
    let s : Session Nat Unit :=
      { store := .empty { repeats := .ignore, sealAfterGather := false }, host := () }
    let s' : Session Nat Unit :=
      { store := .empty { repeats := .reject, sealAfterGather := false }, host := () }
    (∃ (t u : Session Nat Unit),
      let g : Harvest := ⟨[("twice", 2), ("both", 2)], [⟨"down", .failed "no reason"⟩]⟩
      (Services.ofList (offers.map (·.1))).gather twoClasses s = .ok (.ok g) t ∧
      (Services.ofList (offers.map (·.1))).gather twoClasses t = .ok (.ok g) u ∧
      u.store.snapshot = t.store.snapshot) ∧
    ∃ (t u : Session Nat Unit) (x label : String),
      (Services.ofList (fewer.map (·.1))).gather twoClasses s' =
        .ok (.ok ⟨[("once", 1)], [⟨"down", .failed "no reason"⟩]⟩) t ∧
      (Services.ofList (fewer.map (·.1))).gather twoClasses t =
        .ok (.error (.refused x ⟨label, .alreadyRegistered (.ofClass "A")⟩)) u ∧
      u.store = t.store := by
  intro offers fewer s s'
  constructor
  · have ran := eq_ok_of_answer (x := (Services.ofList (offers.map (·.1))).gather twoClasses) (s := s)
      (a := .ok ⟨[("twice", 2), ("both", 2)], [⟨"down", .failed "no reason"⟩]⟩) (by decide +kernel)
    obtain ⟨-, -, ignored, -⟩ :=
      gather_again twoClasses _ offers (contributes_fixedOffers _) s trivial rfl _ _ ran
    obtain ⟨u, again, -, same⟩ := ignored rfl
    exact ⟨_, u, ran, again, same⟩
  · have ran := eq_ok_of_answer (x := (Services.ofList (fewer.map (·.1))).gather twoClasses) (s := s')
      (a := .ok ⟨[("once", 1)], [⟨"down", .failed "no reason"⟩]⟩) (by decide +kernel)
    obtain ⟨-, -, -, rejected⟩ :=
      gather_again twoClasses _ fewer (contributes_fixedOffers _) s' trivial rfl _ _ ran
    obtain ⟨d, rest, target, more, all, declared, -, x, -, -, -, -, label, -, u, -, again, same⟩ :=
      rejected rfl (by decide)
    cases all
    cases declared
    exact ⟨_, u, x.name, label, ran, again, same⟩

end TransformRegistry
