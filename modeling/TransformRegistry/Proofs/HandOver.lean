import TransformRegistry.Proofs.Enumeration
import TransformRegistry.Proofs.Growth
import TransformRegistry.Proofs.PlainUnits

/-!
# Gathering hands declarations over, one after another

Services are gathered one by one, and what each of them declares is registered in a loop of its own.
For the store this is one list of declarations, handed to it up to the first that it refuses.
-/

namespace TransformRegistry

variable {I H E : Type} {U : Kind → Type} [DecidableEq I]

open SessionM

/-! ## Handing declarations to a store -/

/-- What comes of a list of declarations: those that were taken, the first that was refused, if any
was, and the store after that. -/
structure Handover (I : Type) where
  taken : List (Declaration I)
  refused? : Option (Declaration I × Refusal)
  store : Store I

namespace Store

def handOver (s : Store I) : List (Declaration I) → Handover I
  | [] => ⟨[], none, s⟩
  | d :: rest =>
    match s.accept d.1 d.2 with
    | .error refusal => ⟨[], some (d, refusal), s⟩
    | .ok (_, next) => { next.handOver rest with taken := d :: (next.handOver rest).taken }

variable {s : Store I}

theorem handOver_cons_of_error {d : Declaration I} {refusal : Refusal}
    (refused : s.accept d.1 d.2 = .error refusal) (rest : List (Declaration I)) :
    s.handOver (d :: rest) = ⟨[], some (d, refusal), s⟩ := by
  simp only [handOver, refused]

theorem handOver_cons_of_ok {d : Declaration I} {done : List (Target × Placement)} {next : Store I}
    (accepted : s.accept d.1 d.2 = .ok (done, next)) (rest : List (Declaration I)) :
    s.handOver (d :: rest) =
      { next.handOver rest with taken := d :: (next.handOver rest).taken } := by
  simp only [handOver, accepted]

theorem handOver_grows (s : Store I) (declared : List (Declaration I)) :
    s.Grows (s.handOver declared).taken (s.handOver declared).store := by
  induction declared generalizing s with
  | nil => exact .refl s
  | cons d rest ih =>
    cases answer : s.accept d.1 d.2 with
    | error refusal =>
      rw [handOver_cons_of_error answer]
      exact .refl s
    | ok result =>
      rw [handOver_cons_of_ok answer]
      exact .accept answer (ih result.2)

theorem taken_handOver_of_none {declared : List (Declaration I)}
    (through : (s.handOver declared).refused? = none) : (s.handOver declared).taken = declared := by
  induction declared generalizing s with
  | nil => rfl
  | cons d rest ih =>
    cases answer : s.accept d.1 d.2 with
    | error refusal =>
      rw [handOver_cons_of_error answer] at through
      cases through
    | ok result =>
      rw [handOver_cons_of_ok answer] at through ⊢
      rw [ih through]

theorem taken_handOver_of_some {declared : List (Declaration I)} {d : Declaration I}
    {refusal : Refusal} (refused : (s.handOver declared).refused? = some (d, refusal)) :
    ∃ rest, declared = (s.handOver declared).taken ++ d :: rest ∧
      (s.handOver declared).store.accept d.1 d.2 = .error refusal := by
  induction declared generalizing s with
  | nil => cases refused
  | cons e rest ih =>
    cases answer : s.accept e.1 e.2 with
    | error reason =>
      rw [handOver_cons_of_error answer] at refused ⊢
      cases refused
      exact ⟨rest, rfl, answer⟩
    | ok result =>
      rw [handOver_cons_of_ok answer] at refused ⊢
      obtain ⟨later, split, last⟩ := ih refused
      exact ⟨later, congrArg (e :: ·) split, last⟩

theorem handOver_append_of_none {a : List (Declaration I)}
    (through : (s.handOver a).refused? = none) (b : List (Declaration I)) :
    s.handOver (a ++ b) =
      { (s.handOver a).store.handOver b with
        taken := a ++ ((s.handOver a).store.handOver b).taken } := by
  induction a generalizing s with
  | nil => rfl
  | cons d rest ih =>
    cases answer : s.accept d.1 d.2 with
    | error refusal =>
      rw [handOver_cons_of_error answer] at through
      cases through
    | ok result =>
      rw [handOver_cons_of_ok answer] at through ⊢
      rw [List.cons_append, handOver_cons_of_ok answer, ih through]
      rfl

theorem handOver_append_of_some {a : List (Declaration I)} {found : Declaration I × Refusal}
    (refused : (s.handOver a).refused? = some found) (b : List (Declaration I)) :
    s.handOver (a ++ b) = s.handOver a := by
  induction a generalizing s with
  | nil => cases refused
  | cons d rest ih =>
    cases answer : s.accept d.1 d.2 with
    | error refusal =>
      rw [List.cons_append, handOver_cons_of_error answer, handOver_cons_of_error answer]
    | ok result =>
      rw [handOver_cons_of_ok answer] at refused ⊢
      rw [List.cons_append, handOver_cons_of_ok answer, ih refused]

/-! Neither the settings nor the seal are touched. -/

theorem accept_keeps {next : Store I} {h : Handle I} {declared : List Target}
    {done : List (Target × Placement)} (accepted : s.accept h declared = .ok (done, next)) :
    next.settings = s.settings ∧ next.isSealed = s.isSealed := by
  obtain ⟨-, -, rfl⟩ := accept_eq_ok accepted
  refine ⟨rfl, ?_⟩
  exact Snapshot.isSealed_putAll ..

theorem handOver_keeps (s : Store I) (declared : List (Declaration I)) :
    (s.handOver declared).store.settings = s.settings ∧
      (s.handOver declared).store.isSealed = s.isSealed := by
  induction declared generalizing s with
  | nil => exact ⟨rfl, rfl⟩
  | cons d rest ih =>
    cases answer : s.accept d.1 d.2 with
    | error refusal =>
      rw [handOver_cons_of_error answer]
      exact ⟨rfl, rfl⟩
    | ok result =>
      rw [handOver_cons_of_ok answer]
      have first := accept_keeps answer
      have next := ih result.2
      exact ⟨next.1.trans first.1, next.2.trans first.2⟩

end Store

/-! ## Registering what was declared -/

/-- How registering a list of declarations ends. The error, if there is one, has the label that the
refused transformer gave when its turn came. -/
inductive Registered (r : Roster I H E U) (quiet : H → Prop) (done : Handover I) :
    Except RegistrationError Unit → Session I H → Prop
  | through {t : Session I H} : done.refused? = none → t.store = done.store → quiet t.host →
      Registered r quiet done (.ok ()) t
  | refused {d : Declaration I} {refusal : Refusal} {label : String} {u t : Session I H} :
      done.refused? = some (d, refusal) → r.label d.1 u = .ok label t → u.store = done.store →
      quiet u.host → t.store = done.store → quiet t.host →
      Registered r quiet done (.error ⟨label, refusal⟩) t

omit [DecidableEq I] in
theorem Registered.store_eq {r : Roster I H E U} {quiet : H → Prop} {done : Handover I}
    {verdict : Except RegistrationError Unit} {t : Session I H}
    (ended : Registered r quiet done verdict t) : t.store = done.store ∧ quiet t.host := by
  cases ended with
  | through _ store host => exact ⟨store, host⟩
  | refused _ _ _ _ store host => exact ⟨store, host⟩

theorem registerAll_registered {r : Roster I H E U} {quiet : H → Prop}
    {declared : List (Declaration I)}
    (calm : ∀ d ∈ declared, (r.label d.1).Calm quiet)
    (labelled : ∀ d ∈ declared, ∀ s, quiet s.host → ∃ label, (r.label d.1).answer s = .ok label)
    (s : Session I H) (hs : quiet s.host) :
    ∃ verdict t, registerAll r declared s = .ok verdict t ∧
      Registered r quiet (s.store.handOver declared) verdict t := by
  induction declared generalizing s with
  | nil => exact ⟨_, _, rfl, .through rfl rfl hs⟩
  | cons d rest ih =>
    have settled := registerFor_settled (calm d List.mem_cons_self) hs d.2
    cases ran : registerFor r d.1 d.2 s with
    | error c t =>
      rw [ran] at settled
      cases settled with
      | crashed broke _ host =>
        obtain ⟨label, given⟩ := labelled d List.mem_cons_self _ host
        rw [eq_ok_of_answer given] at broke
        cases broke
    | ok answer t =>
      rw [ran] at settled
      cases settled with
      | refused refused last before quieted store host =>
        rw [Store.handOver_cons_of_error refused]
        refine ⟨_, t, ?_, .refused rfl last before quieted store host⟩
        simp only [registerAll, bind_apply, ran, pure_apply]
      | accepted accepted store host =>
        rw [Store.handOver_cons_of_ok accepted, ← store]
        obtain ⟨verdict, u, later, ended⟩ := ih (fun e he => calm e (List.mem_cons_of_mem _ he))
          (fun e he => labelled e (List.mem_cons_of_mem _ he)) t host
        refine ⟨verdict, u, ?_, ?_⟩
        · simp only [registerAll, bind_apply, ran]
          exact later
        · cases ended with
          | through none store host => exact .through none store host
          | refused some last before quieted store host =>
            exact .refused some last before quieted store host

/-! ## One service -/

/-- What a service comes up with when it is asked. -/
abbrev Offer (I : Type) := Except ServiceError (List (Declaration I))

def Offer.declared : Offer I → List (Declaration I)
  | .ok declared => declared
  | .error _ => []

/-- Asked now, the service makes the offer, and the store is left alone, also when the transformers
of the offer give their labels. -/
structure Service.Makes (r : Roster I H E U) (quiet : H → Prop) (x : Service I H)
    (s : Session I H) (offer : Offer I) (t : Session I H) : Prop where
  contributed : x.contribution r s = .ok offer t
  store : t.store = s.store
  host : quiet t.host
  labels : ∀ d ∈ offer.declared, (r.label d.1).Calm quiet
  labelled : ∀ d ∈ offer.declared, ∀ s, quiet s.host → ∃ label, (r.label d.1).answer s = .ok label

section Making

variable {r : Roster I H E U} {quiet : H → Prop} {x : Service I H} {s t : Session I H}
  {declared : List (Declaration I)}

namespace Service.Makes

theorem registerAll_registered (hx : x.Makes r quiet s (.ok declared) t) :
    ∃ verdict u, registerAll r declared t = .ok verdict u ∧
      Registered r quiet (s.store.handOver declared) verdict u := by
  rw [← hx.store]
  exact TransformRegistry.registerAll_registered hx.labels hx.labelled t hx.host

theorem gather_of_none (hx : x.Makes r quiet s (.ok declared) t)
    (through : (s.store.handOver declared).refused? = none) :
    ∃ u, x.gather r s = .ok (.ok declared.length) u ∧
      u.store = (s.store.handOver declared).store ∧ quiet u.host := by
  obtain ⟨verdict, u, ran, ended⟩ := hx.registerAll_registered
  cases ended with
  | refused some => rw [through] at some; cases some
  | through _ store host => exact ⟨_, gather_of_registered hx.contributed ran, store, host⟩

theorem gather_of_some (hx : x.Makes r quiet s (.ok declared) t) {d : Declaration I}
    {refusal : Refusal} (refused : (s.store.handOver declared).refused? = some (d, refusal)) :
    ∃ label u v, x.gather r s = .ok (.error (.refused x.name ⟨label, refusal⟩)) v ∧
      r.label d.1 u = .ok label v ∧ u.store = (s.store.handOver declared).store ∧
      v.store = (s.store.handOver declared).store ∧ quiet v.host := by
  obtain ⟨verdict, v, ran, ended⟩ := hx.registerAll_registered
  cases ended with
  | through none => rw [refused] at none; cases none
  | @refused e reason label u _ some last before _ store host =>
    rw [refused] at some
    cases some
    exact ⟨label, u, v, gather_of_refused hx.contributed ran, last, before, store, host⟩

theorem quiet_gather (hx : x.Makes r quiet s (.ok declared) t) :
    quiet ((x.gather r).after s).host := by
  cases here : (s.store.handOver declared).refused? with
  | none =>
    obtain ⟨u, gathered, -, host⟩ := hx.gather_of_none here
    rwa [after_of_ok gathered]
  | some found =>
    obtain ⟨label, u, v, stopped, -, -, -, host⟩ := hx.gather_of_some here
    rwa [after_of_ok stopped]

end Service.Makes

/-! ## Services in turn -/

/-- The services make their offers one after another, each in the session that the gathering of the
one before left behind. -/
inductive MadeInTurn (r : Roster I H E U) (quiet : H → Prop) :
    Session I H → List (Service I H × Offer I) → Prop
  | nil {s : Session I H} : quiet s.host → MadeInTurn r quiet s []
  | failed {s t : Session I H} {x : Service I H} {e : ServiceError}
      {rest : List (Service I H × Offer I)} : x.Makes r quiet s (.error e) t →
      MadeInTurn r quiet
        { t with events := t.events ++ [.serviceSkipped e.service e.message] } rest →
      MadeInTurn r quiet s ((x, .error e) :: rest)
  | offered {s t : Session I H} {x : Service I H} {declared : List (Declaration I)}
      {rest : List (Service I H × Offer I)} : x.Makes r quiet s (.ok declared) t →
      MadeInTurn r quiet ((x.gather r).after s) rest →
      MadeInTurn r quiet s ((x, .ok declared) :: rest)

/-- All that the services declare. -/
def allDeclared (offers : List (Service I H × Offer I)) : List (Declaration I) :=
  offers.flatMap (·.2.declared)

/-- What is told of services of which nothing is refused. -/
def harvest (offers : List (Service I H × Offer I)) : Harvest where
  gathered := offers.filterMap fun o =>
    match o.2 with
    | .ok declared => some (o.1.name, declared.length)
    | .error _ => none
  failures := offers.filterMap fun o =>
    match o.2 with
    | .ok _ => none
    | .error e => some e

def Harvest.append (g more : Harvest) : Harvest :=
  ⟨g.gathered ++ more.gathered, g.failures ++ more.failures⟩

omit [DecidableEq I] in
theorem allDeclared_cons (x : Service I H) (offer : Offer I) (rest : List (Service I H × Offer I)) :
    allDeclared ((x, offer) :: rest) = offer.declared ++ allDeclared rest :=
  List.flatMap_cons

omit [DecidableEq I] in
theorem total_harvest (offers : List (Service I H × Offer I)) :
    (harvest offers).total = (allDeclared offers).length := by
  induction offers with
  | nil => rfl
  | cons o rest ih =>
    obtain ⟨x, offer⟩ := o
    rw [allDeclared_cons, List.length_append, ← ih]
    cases offer <;> simp [harvest, Harvest.total, Offer.declared]

namespace MadeInTurn

variable {offers : List (Service I H × Offer I)}

theorem gatherEach_of_none (made : MadeInTurn r quiet s offers) (g : Harvest)
    (through : (s.store.handOver (allDeclared offers)).refused? = none) :
    ∃ t, gatherEach r g (offers.map (·.1)) s = .ok (.ok (g.append (harvest offers))) t ∧
      t.store = (s.store.handOver (allDeclared offers)).store ∧ quiet t.host := by
  induction made generalizing g with
  | @nil s host => exact ⟨s, by simp [gatherEach, Harvest.append, harvest], rfl, host⟩
  | @failed s t x e rest hx _ ih =>
    rw [allDeclared_cons, Offer.declared, List.nil_append, ← hx.store] at through ⊢
    obtain ⟨u, ran, final, host⟩ := ih { g with failures := g.failures ++ [e] } through
    refine ⟨u, ?_, final, host⟩
    rw [List.map_cons, gatherEach_of_unavailable (Service.gather_of_unavailable hx.contributed),
      ran]
    simp [Harvest.append, harvest]
  | @offered s t x declared rest hx _ ih =>
    rw [allDeclared_cons, Offer.declared] at through ⊢
    cases here : (s.store.handOver declared).refused? with
    | some found =>
      rw [Store.handOver_append_of_some here, here] at through
      cases through
    | none =>
      obtain ⟨u, gathered, store, -⟩ := hx.gather_of_none here
      rw [Store.handOver_append_of_none here] at through ⊢
      rw [after_of_ok gathered, store] at ih
      obtain ⟨v, ran, final, host⟩ :=
        ih { g with gathered := g.gathered ++ [(x.name, declared.length)] } through
      refine ⟨v, ?_, final, host⟩
      simp only [List.map_cons, gatherEach, bind_apply, gathered, ran]
      simp [Harvest.append, harvest]

theorem gatherEach_of_some (made : MadeInTurn r quiet s offers) {d : Declaration I}
    {refusal : Refusal}
    (refused : (s.store.handOver (allDeclared offers)).refused? = some (d, refusal)) :
    ∃ before x own rest after, offers = before ++ (x, .ok (own ++ d :: rest)) :: after ∧
      (s.store.handOver (allDeclared offers)).taken = allDeclared before ++ own ∧
      ∃ label u t, r.label d.1 u = .ok label t ∧
        u.store = (s.store.handOver (allDeclared offers)).store ∧
        t.store = (s.store.handOver (allDeclared offers)).store ∧
        ∀ g later, gatherEach r g (before.map (·.1) ++ x :: later) s =
          .ok (.error (.refused x.name ⟨label, refusal⟩)) t := by
  induction made with
  | nil => cases refused
  | @failed s t x e rest hx _ ih =>
    rw [allDeclared_cons, Offer.declared, List.nil_append, ← hx.store] at refused ⊢
    obtain ⟨before, y, own, more, after, rfl, taken, label, u, v, last, first, final, stops⟩ :=
      ih refused
    refine ⟨(x, .error e) :: before, y, own, more, after, rfl, taken, label, u, v, last, first,
      final, fun g later => ?_⟩
    rw [List.map_cons, List.cons_append,
      gatherEach_of_unavailable (Service.gather_of_unavailable hx.contributed), stops]
  | @offered s t x declared rest hx _ ih =>
    rw [allDeclared_cons, Offer.declared] at refused ⊢
    cases here : (s.store.handOver declared).refused? with
    | some found =>
      rw [Store.handOver_append_of_some here] at refused ⊢
      obtain ⟨more, split, -⟩ := Store.taken_handOver_of_some refused
      obtain ⟨label, u, v, ran, last, before, final, -⟩ := hx.gather_of_some refused
      refine ⟨[], x, (s.store.handOver declared).taken, more, rest, by rw [← split]; rfl, rfl,
        label, u, v, last, before, final, fun g later => ?_⟩
      simp only [List.map_nil, List.nil_append, gatherEach, bind_apply, ran, pure_apply]
    | none =>
      obtain ⟨u, ran, store, -⟩ := hx.gather_of_none here
      rw [Store.handOver_append_of_none here] at refused ⊢
      rw [after_of_ok ran, store] at ih
      obtain ⟨before, y, own, more, after, rfl, taken, label, v, w, last, first, final, stops⟩ :=
        ih refused
      refine ⟨(x, .ok declared) :: before, y, own, more, after, rfl, ?_, label, v, w, last, first,
        final, fun g later => ?_⟩
      · rw [taken, allDeclared_cons, List.append_assoc]
        rfl
      · simp only [List.map_cons, List.cons_append, gatherEach, bind_apply, ran, stops]

end MadeInTurn

end Making

/-! ## Services that enumerate their transformers -/

/-- A service whose callbacks leave the store alone, and whose transformers, those that it
enumerates, give their labels whenever they are asked. -/
structure Offers (r : Roster I H E U) (x : Service I H) (declared : List (Declaration I)) :
    Prop where
  transformers : x.EnumeratesUnder unchanged
  label : ∀ d ∈ declared, (r.label d.1).Obeys unchanged
  targets : ∀ d ∈ declared, (r.targets d.1).Obeys unchanged
  labelled : ∀ d ∈ declared, ∀ s, ∃ label, (r.label d.1).answer s = .ok label

/-- The services are asked one after another, each in the session that the gathering of the one
before left behind, and each enumerates its transformers, with the targets that they declare. -/
inductive AskedInTurn (r : Roster I H E U) :
    Session I H → List (Service I H × List (Declaration I)) → Prop
  | nil (s : Session I H) : AskedInTurn r s []
  | cons {s t : Session I H} {x : Service I H} {declared : List (Declaration I)}
      {rest : List (Service I H × List (Declaration I))} :
      x.Enumerates r s declared t → AskedInTurn r ((x.gather r).after s) rest →
      AskedInTurn r s ((x, declared) :: rest)

/-- The offers of services that do not fail. -/
def sound (offers : List (Service I H × List (Declaration I))) : List (Service I H × Offer I) :=
  offers.map fun o => (o.1, .ok o.2)

section Sound

variable {r : Roster I H E U} {s : Session I H}
  {offers : List (Service I H × List (Declaration I))}

theorem AskedInTurn.made (asked : AskedInTurn r s offers) (ho : ∀ o ∈ offers, Offers r o.1 o.2) :
    MadeInTurn r (fun _ => True) s (sound offers) := by
  induction asked with
  | nil s => exact .nil trivial
  | @cons s t x declared rest hx _ ih =>
    rw [List.forall_mem_cons] at ho
    obtain ⟨own, others⟩ := ho
    refine .offered ⟨hx.contribution_eq, ?_, trivial, fun d hd => (own.label d hd).calm,
      fun d hd s _ => own.labelled d hd s⟩ (ih others)
    exact hx.allows own.transformers fun d hd => ⟨own.label d hd, own.targets d hd⟩

omit [DecidableEq I] in
theorem map_sound (offers : List (Service I H × List (Declaration I))) :
    (sound offers).map (·.1) = offers.map (·.1) := by
  rw [sound, List.map_map]
  rfl

omit [DecidableEq I] in
theorem allDeclared_sound (offers : List (Service I H × List (Declaration I))) :
    allDeclared (sound offers) = offers.flatMap (·.2) := by
  rw [allDeclared, sound, List.flatMap_map]
  rfl

omit [DecidableEq I] in
theorem harvest_sound (offers : List (Service I H × List (Declaration I))) :
    harvest (sound offers) = ⟨offers.map fun o => (o.1.name, o.2.length), []⟩ := by
  simp [harvest, sound, List.filterMap_map, Function.comp_def]

omit [DecidableEq I] in
theorem sound_split {before after : List (Service I H × Offer I)} {x : Service I H}
    {declared : List (Declaration I)}
    (split : sound offers = before ++ (x, .ok declared) :: after) :
    ∃ first rest, offers = first ++ (x, declared) :: rest ∧ before = sound first := by
  obtain ⟨first, tail, rfl, rfl, later⟩ := List.map_eq_append_iff.1 split
  obtain ⟨⟨y, own⟩, rest, rfl, same, -⟩ := List.map_eq_cons_iff.1 later
  cases same
  exact ⟨first, rest, rfl, rfl⟩

end Sound

/-! ## All services -/

section Services

variable {r : Roster I H E U} {s t : Session I H}

theorem Services.gather_of_ok (ss : Services I H) {g : Harvest}
    (ran : gatherEach r {} ss.list s = .ok (.ok g) t) :
    ∃ u, ss.gather r s = .ok (.ok g) u ∧ u.store =
      (if t.store.settings.sealAfterGather then t.store.close else t.store) := by
  unfold Services.gather
  simp only [bind_apply, ran, getStore_apply]
  cases t.store.settings.sealAfterGather with
  | true =>
    obtain ⟨events, closed⟩ := sealStore_apply t
    exact ⟨_, by simp only [if_true, bind_apply, closed]; rfl, rfl⟩
  | false => exact ⟨_, rfl, rfl⟩

theorem Services.gather_of_error (ss : Services I H) {e : GatherFailure}
    (ran : gatherEach r {} ss.list s = .ok (.error e) t) : ss.gather r s = .ok (.error e) t := by
  unfold Services.gather
  simp only [bind_apply, ran, pure_apply]

/-- Registering what all services declare, in one go, hands it over. -/
theorem registerAll_offers {offers : List (Service I H × List (Declaration I))}
    (ho : ∀ o ∈ offers, Offers r o.1 o.2) (u : Session I H) :
    ((registerAll r (offers.flatMap (·.2))).after u).store =
      (u.store.handOver (offers.flatMap (·.2))).store := by
  have calm : ∀ d ∈ offers.flatMap (·.2), (r.label d.1).Calm fun _ => True := by
    intro d hd
    obtain ⟨o, ofOffer, hd⟩ := List.mem_flatMap.1 hd
    exact ((ho o ofOffer).label d hd).calm
  have labelled : ∀ d ∈ offers.flatMap (·.2), ∀ s, True →
      ∃ label, (r.label d.1).answer s = .ok label := by
    intro d hd s _
    obtain ⟨o, ofOffer, hd⟩ := List.mem_flatMap.1 hd
    exact (ho o ofOffer).labelled d hd s
  obtain ⟨verdict, v, ran, ended⟩ := registerAll_registered calm labelled u trivial
  rw [after_of_ok ran, ended.store_eq.1]

end Services

/-- Gathering services that leave the store alone does to it what registering all that they declare
does, in order and up to the first refusal. Without one, the store is sealed if it is so set. With
one, it is open, and the services that come later make no difference. -/
theorem gather_in_turn (r : Roster I H E U) (offers : List (Service I H × List (Declaration I)))
    (s : Session I H) (unsealed : s.store.isSealed = false) (asked : AskedInTurn r s offers)
    (ho : ∀ o ∈ offers, Offers r o.1 o.2) :
    let declared := offers.flatMap (·.2)
    let done := s.store.handOver declared
    (s.store.Grows done.taken done.store ∧
      ∀ u : Session I H, u.store = s.store →
        ((registerAll r declared).after u).store = done.store) ∧
    (done.refused? = none → ∃ g t, (Services.ofList (offers.map (·.1))).gather r s = .ok (.ok g) t ∧
      g = ⟨offers.map fun o => (o.1.name, o.2.length), []⟩ ∧
      done.taken = declared ∧ g.total = done.taken.length ∧
      t.store = (if s.store.settings.sealAfterGather then done.store.close else done.store) ∧
      t.store.isSealed = s.store.settings.sealAfterGather) ∧
    ∀ d refusal, done.refused? = some (d, refusal) →
      ∃ before x own rest after, offers = before ++ (x, own ++ d :: rest) :: after ∧
        done.taken = before.flatMap (·.2) ++ own ∧
        ∃ label u t, r.label d.1 u = .ok label t ∧ u.store = done.store ∧
          t.store = done.store ∧ t.store.isSealed = false ∧
          ∀ later, (Services.ofList (before.map (·.1) ++ x :: later)).gather r s =
            .ok (.error (.refused x.name ⟨label, refusal⟩)) t := by
  intro declared done
  obtain ⟨settings, flag⟩ := s.store.handOver_keeps declared
  rw [unsealed] at flag
  have made := asked.made ho
  have all : s.store.handOver (allDeclared (sound offers)) = done := by rw [allDeclared_sound]
  refine ⟨⟨s.store.handOver_grows declared, fun u hu => ?_⟩, fun through => ?_,
    fun d refusal refused => ?_⟩
  · rw [registerAll_offers ho, hu]
  · obtain ⟨t, ran, store, -⟩ := made.gatherEach_of_none {} (by rw [all, through])
    rw [map_sound] at ran
    obtain ⟨u, gathered, final⟩ := Services.gather_of_ok (.ofList (offers.map (·.1))) ran
    have taken : done.taken = declared := Store.taken_handOver_of_none through
    rw [store, all, settings] at final
    refine ⟨_, u, gathered, harvest_sound offers, taken, ?_, final, ?_⟩
    · have total := total_harvest (sound offers)
      rw [allDeclared_sound] at total
      rw [taken]
      exact total
    · rw [final]
      cases s.store.settings.sealAfterGather with
      | true => exact Store.isSealed_close _
      | false => exact flag
  · obtain ⟨before, x, own, rest, after, split, taken, label, u, t, last, first, final, stops⟩ :=
      made.gatherEach_of_some (by rw [all, refused])
    obtain ⟨before, after, rfl, rfl⟩ := sound_split split
    rw [all, allDeclared_sound] at taken
    rw [all] at first final
    rw [map_sound] at stops
    refine ⟨before, x, own, rest, after, rfl, taken, label, u, t, last, first, final, ?_,
      fun later => Services.gather_of_error _ (stops {} later)⟩
    rw [final]
    exact flag

/-- All but one of the transformers declare what they may; the field transformer does not. -/
theorem gather_in_turn_misplaced :
    let ts : List Target := [.ofClass "A", .ofClass "B"]
    let r : Roster Nat Unit Unit PlainUnit := .marking fun _ => return ts
    let first : Service Nat Unit := ⟨"first", return .ok [⟨.cls, 1⟩]⟩
    let second : Service Nat Unit := ⟨"second", return .ok [⟨.cls, 2⟩, ⟨.field, 3⟩, ⟨.cls, 4⟩]⟩
    let s : Session Nat Unit := { store := .empty, host := () }
    ∃ (x : Service Nat Unit) (label : String) (t : Session Nat Unit),
      (Services.ofList [first, second]).gather r s =
        .ok (.error (.refused x.name ⟨label, .wrongKind .field (.ofClass "A")⟩)) t ∧
      t.store.snapshot.handlesFor (.ofClass "B") = [⟨.cls, 1⟩, ⟨.cls, 2⟩] := by
  intro ts r first second s
  have asked : AskedInTurn r s [(first, [(⟨.cls, 1⟩, ts)]),
      (second, [(⟨.cls, 2⟩, ts), (⟨.field, 3⟩, ts), (⟨.cls, 4⟩, ts)])] :=
    .cons ⟨_, _, rfl, .cons rfl rfl (.nil _)⟩ <|
      .cons ⟨_, _, rfl, .cons rfl rfl (.cons rfl rfl (.cons rfl rfl (.nil _)))⟩ (.nil _)
  have offered : ∀ x declared, x.transformers.Obeys unchanged → Offers r x declared :=
    fun x declared hx =>
      ⟨hx, fun _ _ => obeys_pure _, fun _ _ => obeys_pure _, fun _ _ _ => ⟨_, rfl⟩⟩
  have turn := gather_in_turn r _ s rfl asked (by
    simp only [List.mem_cons, List.not_mem_nil, or_false]
    rintro o (rfl | rfl)
    · exact offered _ _ (obeys_pure _)
    · exact offered _ _ (obeys_pure _))
  obtain ⟨before, x, own, rest, after, split, -, label, u, t, -, -, final, -, stops⟩ :=
    turn.2.2 (⟨.field, 3⟩, ts) (.wrongKind .field (.ofClass "A")) (by decide +kernel)
  have services : [first, second] = before.map (·.1) ++ x :: after.map (·.1) := by
    simpa using congrArg (List.map (·.1)) split
  refine ⟨x, label, t, ?_, ?_⟩
  · rw [services]
    exact stops _
  · rw [final]
    decide +kernel

end TransformRegistry
