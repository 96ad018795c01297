import TransformRegistry.Proofs.HistoryShape
import TransformRegistry.Proofs.Memberwise

/-!
# Audited applications

A trail watches. Whether one is kept, and what it tells already, makes no difference to an
application, as long as transformers leave it alone. What is added to it are the histories of the
attempts, one for each unit that somebody is registered for, up to and including the first failure.
-/

namespace TransformRegistry

variable {I H E α β : Type} {U : Kind → Type} {name : String}

open SessionM

/-! ## Histories told to a trail -/

/-- Histories and what they are about, in the order in which they were told. -/
abbrev Telling := List (Target × List Entry)

def toldFor (t : Target) (told : Telling) : List Entry :=
  (told.filter (·.1 = t)).flatMap (·.2)

theorem toldFor_cons (t : Target) (d : Target × List Entry) (told : Telling) :
    toldFor t (d :: told) = (if d.1 = t then d.2 else []) ++ toldFor t told := by
  by_cases here : d.1 = t <;> simp [toldFor, here]

theorem toldFor_append (t : Target) (told more : Telling) :
    toldFor t (told ++ more) = toldFor t told ++ toldFor t more := by
  simp [toldFor]

theorem toldFor_eq_nil {t : Target} {told : Telling} (none : ∀ d ∈ told, d.1 ≠ t) :
    toldFor t told = [] := by
  have nobody : told.filter (·.1 = t) = [] := List.filter_eq_nil_iff.2 fun d hd => by
    simpa using none d hd
  rw [toldFor, nobody, List.flatMap_nil]

namespace Trail

def recordAll (trail : Trail) (told : Telling) : Trail :=
  told.foldl (fun trail d => trail.record d.1 d.2) trail

theorem recordAll_append (trail : Trail) (told more : Telling) :
    trail.recordAll (told ++ more) = (trail.recordAll told).recordAll more :=
  List.foldl_append ..

theorem history_recordAll (trail : Trail) (told : Telling) (t : Target) :
    (trail.recordAll told).history t = trail.history t ++ toldFor t told := by
  induction told generalizing trail with
  | nil => exact (List.append_nil _).symm
  | cons d rest ih =>
    have step := ih (trail.record d.1 d.2)
    by_cases here : d.1 = t
    · subst here
      rw [history_record_self, List.append_assoc] at step
      simpa [recordAll, toldFor] using step
    · rw [history_record_of_ne _ _ (Ne.symm here)] at step
      simpa [recordAll, toldFor, here] using step

end Trail

/-! ## Calls that tell a trail -/

def Session.withTrail (s : Session I H) (name : String) (trail : Trail) : Session I H :=
  { s with trails := s.trails.set name trail }

@[simp] theorem Session.trails_withTrail (s : Session I H) (name : String) (trail : Trail) :
    (s.withTrail name trail).trails name = trail :=
  Trails.set_self ..

/-- One session is the other with that trail. -/
def OtherTrail (name : String) (trail : Trail) (s t : Session I H) : Prop :=
  t = s.withTrail name trail

/-- Whatever the trail tells already, the second call does what the first does, and adds to the
trail what is told. -/
def SessionM.Tells (name : String) (plain audited : SessionM I H α) (told : Session I H → Telling) :
    Prop :=
  ∀ s trail, Meet (fun t u => u = t.withTrail name (trail.recordAll (told s))) plain audited s
    (s.withTrail name trail)

def untold (_ : Session I H) : Telling := []

/-- What is told after a call that ended with a value. -/
def SessionM.thenTold (x : SessionM I H α) (next : α → Session I H → Telling) (s : Session I H) :
    Telling :=
  match x.answer s with
  | .ok a => next a (x.after s)
  | .error _ => []

theorem SessionM.thenTold_untold (x : SessionM I H α) (s : Session I H) :
    x.thenTold (fun _ => untold) s = [] := by
  unfold thenTold
  cases x.answer s <;> rfl

section Tells

variable {x y : SessionM I H α} {f g : α → SessionM I H β} {told : Session I H → Telling}
  {next : α → Session I H → Telling}

theorem SessionM.tells_of_inStep (h : ∀ trail, InStep (OtherTrail name trail) x y) :
    Tells name x y untold := fun s trail => h trail s _ rfl

theorem SessionM.tells_pure (a : α) : Tells name (pure a : SessionM I H α) (pure a) untold :=
  fun _ _ => ⟨rfl, rfl⟩

theorem SessionM.Tells.congr {told' : Session I H → Telling} (hx : Tells name x y told)
    (same : ∀ s, told s = told' s) : Tells name x y told' := by
  rwa [← funext same]

theorem SessionM.Tells.bind (hx : Tells name x y told) (hf : ∀ a, Tells name (f a) (g a) (next a)) :
    Tells name (x >>= f) (y >>= g) (fun s => told s ++ x.thenTold next s) := by
  intro s trail
  obtain ⟨same, left⟩ := hx s trail
  cases ended : x.answer s with
  | ok a =>
    have later : x.thenTold next s = next a (x.after s) := by simp only [thenTold, ended]
    have rest := hf a (x.after s) (trail.recordAll (told s))
    simp only [Meet, answer_bind, after_bind, ← same, ended, left, later, Trail.recordAll_append]
    exact rest
  | error crash =>
    have nothing : x.thenTold next s = [] := by simp only [thenTold, ended]
    simp only [Meet, answer_bind, after_bind, ← same, ended, left, nothing, List.append_nil,
      and_self]

theorem SessionM.Tells.bind_untold (hx : Tells name x y told)
    (hf : ∀ a, Tells name (f a) (g a) untold) : Tells name (x >>= f) (y >>= g) told :=
  (hx.bind hf).congr fun s => by rw [thenTold_untold, List.append_nil]

theorem SessionM.tells_getStore (next : Store I → Session I H → Telling)
    {f g : Store I → SessionM I H α} (hf : ∀ store, Tells name (f store) (g store) (next store)) :
    Tells name (getStore >>= f) (getStore >>= g) (fun s => next s.store s) :=
  fun s trail => hf s.store s trail

theorem reportsInStep_otherTrail (trail : Trail) :
    ReportsInStep (OtherTrail (I := I) (H := H) name trail) := by
  rintro e s t rfl
  exact ⟨rfl, rfl⟩

theorem SessionM.tells_report (e : Event) :
    Tells name (report e : SessionM I H Unit) (report e) untold :=
  tells_of_inStep fun trail => reportsInStep_otherTrail trail e

theorem SessionM.tells_record (target : Target) (history : List Entry) :
    Tells name (record none target history : SessionM I H Unit) (record (some name) target history)
      (fun _ => [(target, history)]) := by
  intro s trail
  refine ⟨rfl, ?_⟩
  rw [after_of_ok (record_some_apply ..)]
  simp only [Session.withTrail, Trails.set_self, Trails.set_set]
  rfl

end Tells

/-! ## Loads with a trail and without -/

/-- The load, with that trail or with none. -/
def LoadContext.keeping (load : LoadContext E) (trail? : Option String) : LoadContext E :=
  { load with trail? }

/-- Whoever is asked cannot tell whether a trail is kept. -/
theorem askQueue_keeping {V : Type} (target : Target) (load : LoadContext E) (trail? : Option String)
    (unit : V) (history : List Entry) (queue : List (Transformer I H E V × Pass)) :
    askQueue target (load.keeping trail?) unit history queue =
      askQueue target load unit history queue := by
  induction left : questionsLeft queue using Nat.strongRecOn
    generalizing queue unit history with
  | ind n ih =>
    subst left
    rcases queue with _ | ⟨⟨t, pass⟩, rest⟩
    · rw [askQueue, askQueue]
    have popped := questionsLeft_pop (t, pass) rest
    rw [askQueue_cons, askQueue_cons]
    refine bind_congr fun reply => ?_
    cases reply with
    | went next entry => exact ih _ popped _ _ _ rfl
    | failed error entry => rfl
    | deferred label =>
      cases pass with
      | first => exact ih _ (questionsLeft_requeue t rest) _ _ _ rfl
      | second => exact bind_congr fun _ => ih _ popped _ _ _ rfl

/-! ## Attempts -/

section Attempts

variable {V : Type} {sequence : List (Transformer I H E V)} {unit : V} {target : Target}
  {load : LoadContext E}

/-- What an attempt tells, if it comes to an end: its history. -/
def attemptTold (sequence : List (Transformer I H E V)) (unit : V) (target : Target)
    (load : LoadContext E) (s : Session I H) : Telling :=
  if sequence.isEmpty then []
  else match (askQueue target load unit [] (sequence.map (·, .first))).answer s with
    | .ok (_, history) => [(target, history)]
    | .error _ => []

theorem attempt_tells (hs : ∀ trail, ∀ t ∈ sequence, t.InStep (OtherTrail name trail) t) :
    Tells name (attempt sequence unit target (load.keeping none))
      (attempt sequence unit target (load.keeping (some name)))
      (attemptTold sequence unit target (load.keeping none)) := by
  have asked : Tells name (askQueue target load unit [] (sequence.map (·, .first)))
      (askQueue target load unit [] (sequence.map (·, .first))) untold :=
    tells_of_inStep fun trail => (reportsInStep_otherTrail trail).askAll
      (List.forall₂_same.2 (hs trail))
  unfold attempt attemptTold
  rw [askQueue_keeping, askQueue_keeping]
  split
  · exact tells_pure _
  · have recorded : ∀ found : Except TransformError V × List Entry,
        Tells name (do record none target found.2; return found.1 : SessionM I H _)
          (do record (some name) target found.2; return found.1)
          (fun _ => [(target, found.2)]) := fun found =>
      (tells_record target found.2).bind_untold fun _ => tells_pure _
    refine (asked.bind recorded).congr fun s => ?_
    unfold thenTold
    cases (askQueue target load unit [] (sequence.map (·, .first))).answer s <;> rfl

end Attempts

/-! ## Applications -/

/-- Nothing more is told after an error. -/
def goingOn (next : α → Session I H → Telling) : Except TransformError α → Session I H → Telling
  | .ok a => next a
  | .error _ => untold

/-- Transformers neither look at the trail nor write into it. -/
def Roster.IgnoresTrail (r : Roster I H E U) (name : String) : Prop :=
  ∀ trail, r.InStep (OtherTrail name trail) r

section Members

variable (r : Roster I H E U)

def membersTold (snapshot : Snapshot I) (load : LoadContext E) (k : Kind) (targetOf : U k → Target) :
    List (U k) → Session I H → Telling
  | [], _ => []
  | member :: rest, s =>
    let target := targetOf member
    let sequence := snapshot.transformers r k target
    attemptTold sequence member target load s ++ (attempt sequence member target load).thenTold
      (goingOn fun _ => membersTold snapshot load k targetOf rest) s

def unitTold (snapshot : Snapshot I) (k : Kind) (unit : U k) (target : Target)
    (load : LoadContext E) (s : Session I H) : Telling :=
  if target.kind ≠ k then []
  else attemptTold (snapshot.transformers r k target) unit target load s

def classTold [ClassShape U] (snapshot : Snapshot I) (cls : U .cls) (load : LoadContext E)
    (s : Session I H) : Telling :=
  let owner := ClassName.ofText (ClassShape.name cls)
  if !snapshot.touchesClass owner then []
  else
    let fields := ClassShape.fields cls
    membersTold r snapshot load .field (fieldTarget owner) fields s ++
      (transformMembers r snapshot load .field (fieldTarget owner) fields).thenTold
        (goingOn fun fields s =>
          let cls := ClassShape.setFields cls fields
          let methods := ClassShape.methods cls
          membersTold r snapshot load .method (methodTarget owner) methods s ++
            (transformMembers r snapshot load .method (methodTarget owner) methods).thenTold
              (goingOn fun methods =>
                attemptTold (snapshot.transformers r .cls (.cls owner))
                  (ClassShape.setMethods cls methods) (.cls owner) load) s) s

end Members

namespace Application

/-- The application, with that trail or with none. -/
def keeping (trail? : Option String) : Application E U α → Application E U α
  | .unit k u target load => .unit k u target (load.keeping trail?)
  | .any u target load => .any u target (load.keeping trail?)
  | .cls c load => .cls c (load.keeping trail?)

/-- What an application tells: the history of each attempt that came to an end. -/
def told [ClassShape U] (r : Roster I H E U) : Application E U α → Session I H → Telling
  | .unit k u target load, s => unitTold r s.store.snapshot k u target load s
  | .any u target load, s => unitTold r s.store.snapshot u.kind u.unit target load s
  | .cls c load, s => classTold r s.store.snapshot c load s

end Application

section Applications

variable {r : Roster I H E U} {load : LoadContext E}

theorem Roster.IgnoresTrail.attempt_tells (hr : r.IgnoresTrail name) {snapshot : Snapshot I} {k : Kind}
    {target : Target} {unit : U k} :
    Tells name (attempt (snapshot.transformers r k target) unit target (load.keeping none))
      (attempt (snapshot.transformers r k target) unit target (load.keeping (some name)))
      (attemptTold (snapshot.transformers r k target) unit target (load.keeping none)) := by
  refine TransformRegistry.attempt_tells fun trail t ht => ?_
  obtain ⟨i, -, rfl⟩ := List.mem_map.1 ht
  exact hr trail k i

theorem Roster.IgnoresTrail.members_tell (hr : r.IgnoresTrail name) {snapshot : Snapshot I} {k : Kind}
    {targetOf : U k → Target} {members : List (U k)} :
    Tells name (transformMembers r snapshot (load.keeping none) k targetOf members)
      (transformMembers r snapshot (load.keeping (some name)) k targetOf members)
      (membersTold r snapshot (load.keeping none) k targetOf members) := by
  induction members with
  | nil => exact tells_pure _
  | cons member rest ih =>
    refine hr.attempt_tells.bind fun result => ?_
    cases result with
    | error e => exact tells_pure _
    | ok unit =>
      refine ih.bind_untold fun result => ?_
      cases result <;> exact tells_pure _

theorem Roster.IgnoresTrail.unit_tells (hr : r.IgnoresTrail name) {k : Kind} {unit : U k}
    {target : Target} :
    Tells name (transformUnit r k unit target (load.keeping none))
      (transformUnit r k unit target (load.keeping (some name)))
      (fun s => unitTold r s.store.snapshot k unit target (load.keeping none) s) := by
  unfold transformUnit unitTold
  split
  · exact tells_pure _
  · exact tells_getStore _ fun store => hr.attempt_tells

theorem Roster.IgnoresTrail.class_tells [ClassShape U] (hr : r.IgnoresTrail name) {cls : U .cls} :
    Tells name (loadClass r cls (load.keeping none)) (loadClass r cls (load.keeping (some name)))
      (fun s => classTold r s.store.snapshot cls (load.keeping none) s) := by
  unfold loadClass
  refine tells_getStore (fun store => classTold r store.snapshot cls (load.keeping none))
    fun store => ?_
  unfold classTold
  dsimp only
  rw [Snapshot.needsClass_text]
  split
  · exact tells_pure _
  refine hr.members_tell.bind fun result => ?_
  cases result with
  | error e => exact tells_pure _
  | ok fields =>
    refine hr.members_tell.bind fun result => ?_
    cases result with
    | error e => exact tells_pure _
    | ok methods =>
      refine hr.attempt_tells.bind_untold fun result => ?_
      cases result with
      | error e => exact tells_pure _
      | ok cls => exact (tells_report _).bind_untold fun _ => tells_pure _

theorem Application.tells [ClassShape U] (hr : r.IgnoresTrail name) (a : Application E U α) :
    Tells name ((a.keeping none).run r) ((a.keeping (some name)).run r)
      ((a.keeping none).told r) := by
  cases a with
  | unit k u target load => exact hr.unit_tells
  | any u target load =>
    refine hr.unit_tells.bind_untold fun result => ?_
    cases result <;> exact tells_pure _
  | cls c load => exact hr.class_tells

end Applications

/-! ## What is told, in order -/

/-- Nobody failed. -/
def Sound (history : List Entry) : Prop := ∀ e ∈ history, e.outcome ≠ .failed

/-- There are histories for the first of these targets; for all of them, if the call ended well. If
it failed, the last is of the target that is named, and ends with the failure. -/
structure ToldInOrder (targets : List Target) (told : Telling)
    (answer : Except Crash (Except TransformError α)) : Prop where
  reached : told.map (·.1) <+: targets
  ended : ∀ a, answer = .ok (.ok a) → told.map (·.1) = targets ∧ ∀ d ∈ told, Sound d.2
  failed : ∀ target label reason, answer = .ok (.error (.failed target label reason)) →
    ∃ done before, told = done ++ [(target, before ++ [⟨label, .failed⟩])] ∧
      (∀ d ∈ done, Sound d.2) ∧ Sound before

theorem toldInOrder_nothing (a : α) :
    ToldInOrder [] [] (.ok (.ok a) : Except Crash (Except TransformError α)) where
  reached := List.prefix_rfl
  ended _ _ := ⟨rfl, nofun⟩
  failed := nofun

/-- What is told in turn by two calls, of which the second is made only if the first ends well. -/
theorem ToldInOrder.andThen {x : SessionM I H (Except TransformError α)}
    {f : Except TransformError α → SessionM I H (Except TransformError β)}
    {next : α → Session I H → Telling} {targets more : List Target} {told : Telling}
    {s : Session I H} (first : ToldInOrder targets told (x.answer s))
    (stops : ∀ e, f (.error e) = return .error e)
    (rest : ∀ a, ToldInOrder more (next a (x.after s)) ((f (.ok a)).answer (x.after s))) :
    ToldInOrder (targets ++ more) (told ++ x.thenTold (goingOn next) s) ((x >>= f).answer s) := by
  have prefixed : told.map (·.1) <+: targets ++ more :=
    first.reached.trans (List.prefix_append ..)
  unfold thenTold
  rw [answer_bind]
  cases ended : x.answer s with
  | error crash =>
    rw [List.append_nil]
    exact ⟨prefixed, nofun, nofun⟩
  | ok result =>
    cases result with
    | error e =>
      simp only [stops, goingOn, untold, List.append_nil, answer_pure]
      refine ⟨prefixed, nofun, fun target label reason failed => ?_⟩
      cases failed
      exact first.failed _ _ _ ended
    | ok a =>
      obtain ⟨all, sound⟩ := first.ended a ended
      obtain ⟨reached, wellEnded, failed⟩ := rest a
      simp only [goingOn]
      refine ⟨?_, fun b same => ?_, fun target label reason same => ?_⟩
      · rw [List.map_append, all]
        exact (List.prefix_append_right_inj _).2 reached
      · obtain ⟨others, later⟩ := wellEnded b same
        rw [List.map_append, all, others]
        exact ⟨rfl, List.forall_mem_append.2 ⟨sound, later⟩⟩
      · obtain ⟨done, before, split, later, soundBefore⟩ := failed _ _ _ same
        refine ⟨told ++ done, before, ?_, List.forall_mem_append.2 ⟨sound, later⟩, soundBefore⟩
        rw [split, List.append_assoc]

theorem ToldInOrder.finish {x : SessionM I H (Except TransformError α)}
    {f : Except TransformError α → SessionM I H (Except TransformError β)} {targets : List Target}
    {told : Telling} {s : Session I H} (first : ToldInOrder targets told (x.answer s))
    (stops : ∀ e, f (.error e) = return .error e)
    (rest : ∀ a, ∃ b, ∀ t, (f (.ok a)).answer t = .ok (.ok b)) :
    ToldInOrder targets told ((x >>= f).answer s) := by
  have all : ToldInOrder (targets ++ []) (told ++ x.thenTold (goingOn fun _ => untold) s)
      ((x >>= f).answer s) := first.andThen stops fun a => by
    obtain ⟨b, last⟩ := rest a
    rw [last]
    exact toldInOrder_nothing b
  have silent : (goingOn fun _ : α => untold) = fun _ => (untold : Session I H → Telling) := by
    funext result
    cases result <;> rfl
  rwa [List.append_nil, silent, thenTold_untold, List.append_nil] at all

section Order

variable {r : Roster I H E U} {load : LoadContext E} {s : Session I H}

theorem attempt_toldInOrder {V : Type} {sequence : List (Transformer I H E V)} {unit : V}
    {target : Target} :
    ToldInOrder (if sequence.isEmpty then [] else [target])
      (attemptTold sequence unit target load s)
      ((attempt sequence unit target load).answer s) := by
  unfold attemptTold
  by_cases nobody : sequence.isEmpty
  · unfold attempt
    simp only [nobody, if_true]
    exact toldInOrder_nothing unit
  simp only [nobody, Bool.false_eq_true, if_false]
  cases ended : (attempt sequence unit target load).answer s with
  | error crash =>
    refine ⟨?_, nofun, nofun⟩
    split
    · exact List.prefix_rfl
    · exact List.nil_prefix
  | ok result =>
    obtain ⟨turns, failed?, asked, -, rounds, ends⟩ := attempt_turns ended
    simp only [asked]
    refine ⟨List.prefix_rfl, ?_, ?_⟩
    · rintro a ⟨⟩
      obtain rfl := ends.eq_none
      refine ⟨rfl, List.forall_mem_singleton.2 ?_⟩
      exact List.forall_mem_map.2 rounds.not_failed
    · rintro target label reason ⟨⟩
      cases failed? with
      | none => exact ends.elim
      | some name =>
        obtain ⟨_, same⟩ := ends
        cases same
        obtain ⟨before, place, pass, rfl, sound⟩ := rounds.failed_last
        refine ⟨[], before.map (·.entry), ?_, nofun, List.forall_mem_map.2 sound⟩
        simp

theorem transformers_isEmpty (snapshot : Snapshot I) (r : Roster I H E U) {k : Kind}
    {target : Target} (kind : target.kind = k) :
    (snapshot.transformers r k target).isEmpty = (snapshot.handlesFor target).isEmpty := by
  unfold Snapshot.transformers Snapshot.handlesFor
  rw [List.isEmpty_map, List.isEmpty_map, kind]

/-- Those of the targets that somebody is registered for. -/
def Snapshot.asked (snapshot : Snapshot I) (targets : List Target) : List Target :=
  targets.filter fun t => !(snapshot.handlesFor t).isEmpty

theorem Snapshot.asked_append (snapshot : Snapshot I) (targets more : List Target) :
    snapshot.asked (targets ++ more) = snapshot.asked targets ++ snapshot.asked more :=
  List.filter_append ..

theorem attempt_transformers_toldInOrder {snapshot : Snapshot I} {k : Kind} {target : Target}
    (kind : target.kind = k) {unit : U k} :
    ToldInOrder (snapshot.asked [target])
      (attemptTold (snapshot.transformers r k target) unit target load s)
      ((attempt (snapshot.transformers r k target) unit target load).answer s) := by
  have found : ToldInOrder (if (snapshot.transformers r k target).isEmpty then [] else [target])
      (attemptTold (snapshot.transformers r k target) unit target load s)
      ((attempt (snapshot.transformers r k target) unit target load).answer s) :=
    attempt_toldInOrder
  rw [transformers_isEmpty snapshot r kind] at found
  have asked : snapshot.asked [target] =
      if (snapshot.handlesFor target).isEmpty then [] else [target] := by
    unfold Snapshot.asked
    cases nobody : (snapshot.handlesFor target).isEmpty <;> simp [nobody]
  rwa [asked]

theorem members_toldInOrder {snapshot : Snapshot I} {k : Kind} {targetOf : U k → Target}
    (kind : ∀ member, (targetOf member).kind = k) {members : List (U k)} :
    ToldInOrder (snapshot.asked (members.map targetOf))
      (membersTold r snapshot load k targetOf members s)
      ((transformMembers r snapshot load k targetOf members).answer s) := by
  induction members generalizing s with
  | nil => exact toldInOrder_nothing []
  | cons member rest ih =>
    have split := snapshot.asked_append [targetOf member] (rest.map targetOf)
    rw [List.singleton_append] at split
    rw [List.map_cons, split]
    refine (attempt_transformers_toldInOrder (kind member)).andThen (fun _ => rfl) fun unit => ?_
    exact ih.finish (fun _ => rfl) fun others => ⟨unit :: others, fun _ => rfl⟩

/-- The targets that the parts of a class are, in the order in which they are transformed. -/
def classTargets [ClassShape U] (cls : U .cls) : List Target :=
  let owner := ClassName.ofText (ClassShape.name cls)
  (ClassShape.fields cls).map (fieldTarget owner) ++ ((ClassShape.methods cls).map (methodTarget owner)
    ++ [.cls owner])

theorem owner_of_mem_classTargets [ClassShape U] {cls : U .cls} :
    ∀ t ∈ classTargets cls, t.owner = .ofText (ClassShape.name cls) := by
  intro t ht
  simp only [classTargets, List.mem_append, List.mem_map, List.mem_singleton] at ht
  rcases ht with ⟨field, -, rfl⟩ | ⟨method, -, rfl⟩ | rfl <;> rfl

theorem asked_of_untouched [ClassShape U] {snapshot : Snapshot I} (hs : snapshot.Consistent)
    {cls : U .cls}
    (untouched : snapshot.touchesClass (.ofText (ClassShape.name cls)) = false) :
    snapshot.asked (classTargets cls) = [] := by
  unfold Snapshot.asked
  rw [List.filter_eq_nil_iff]
  intro t ht
  unfold Snapshot.handlesFor
  rw [sequence_of_untouched hs untouched t.kind (owner_of_mem_classTargets t ht)]
  simp

theorem class_toldInOrder [ClassShape U] (hs : s.store.snapshot.Consistent) {cls : U .cls} :
    ToldInOrder (s.store.snapshot.asked (classTargets cls))
      (classTold r s.store.snapshot cls load s) ((loadClass r cls load).answer s) := by
  unfold loadClass classTold
  rw [answer_getStore_bind]
  dsimp only
  rw [Snapshot.needsClass_text]
  split
  · next untouched =>
    rw [asked_of_untouched hs (by simpa using untouched)]
    exact toldInOrder_nothing cls
  unfold classTargets
  dsimp only
  rw [Snapshot.asked_append, Snapshot.asked_append]
  have fields : ∀ field : U .field,
      (fieldTarget (.ofText (ClassShape.name cls)) field).kind = .field := fun _ => rfl
  have methods : ∀ method : U .method,
      (methodTarget (.ofText (ClassShape.name cls)) method).kind = .method := fun _ => rfl
  refine ToldInOrder.andThen (members_toldInOrder fields) (fun _ => rfl) fun fields => ?_
  rw [← ClassShape.methods_setFields cls fields]
  refine ToldInOrder.andThen (members_toldInOrder methods) (fun _ => rfl) fun methods => ?_
  refine ToldInOrder.finish (attempt_transformers_toldInOrder rfl) (fun _ => rfl) fun cls => ?_
  exact ⟨cls, fun _ => rfl⟩

end Order

namespace Application

/-- The targets that the application is about, in the order in which they are handed to the store. A
unit of another kind is not. -/
def targets [ClassShape U] : Application E U α → List Target
  | .unit k _ target _ => if target.kind = k then [target] else []
  | .any u target _ => if target.kind = u.kind then [target] else []
  | .cls c _ => classTargets c

theorem unit_toldInOrder {r : Roster I H E U} {k : Kind} {unit : U k} {target : Target}
    {load : LoadContext E} {s : Session I H} :
    ToldInOrder (s.store.snapshot.asked (if target.kind = k then [target] else []))
      (unitTold r s.store.snapshot k unit target load s)
      ((transformUnit r k unit target load).answer s) := by
  unfold transformUnit unitTold
  by_cases kind : target.kind = k
  · simp only [kind, ne_eq, not_true_eq_false, if_false, if_true]
    exact attempt_transformers_toldInOrder kind
  · simp only [kind, ne_eq, not_false_eq_true, if_true, if_false]
    exact ⟨List.prefix_rfl, nofun, nofun⟩

theorem targets_keeping [ClassShape U] (a : Application E U α) (trail? : Option String) :
    (a.keeping trail?).targets = a.targets := by
  cases a <;> rfl

theorem toldInOrder [ClassShape U] (r : Roster I H E U) (a : Application E U α) {s : Session I H}
    (hs : s.store.snapshot.Consistent) :
    ToldInOrder (s.store.snapshot.asked a.targets) (a.told r s) ((a.run r).answer s) := by
  cases a with
  | unit k u target load => exact unit_toldInOrder
  | any u target load =>
    exact unit_toldInOrder.finish (fun _ => rfl) fun unit => ⟨⟨u.kind, unit⟩, fun _ => rfl⟩
  | cls c load => exact class_toldInOrder hs

end Application

/-! ## Trails only watch -/

theorem alsoInNotes_otherTrail {N : Type} (trail : Trail) :
    AlsoInNotes (N := N) (OtherTrail (I := I) (H := H) name trail) = OtherTrail name trail := by
  funext s t
  refine propext ⟨fun ⟨bare, notes⟩ => ?_, ?_⟩
  · obtain ⟨store, trails, events, host, noted⟩ := t
    obtain ⟨rfl, rfl, rfl, rfl⟩ := Session.mk.inj bare
    obtain rfl := notes
    rfl
  · rintro rfl
    exact ⟨rfl, rfl⟩

theorem Roster.IgnoresTrail.writing {r : Roster I H E U} (hr : r.IgnoresTrail name) :
    r.writing.IgnoresTrail name := by
  intro trail
  have written := (hr trail).writing
  rwa [alsoInNotes_otherTrail] at written

/-- Whether a trail is kept makes no difference but to the trail itself. To that, an application
adds the histories of its attempts: one for each of its targets that somebody is registered for, in
order, up to and including the first that failed. -/
theorem trail_only_watches [DecidableEq I] [ClassShape U] (r : Roster I H E U) (name : String)
    (hr : r.IgnoresTrail name) (a : Application E U α) (s : Session I H)
    (hs : s.store.Reachable) :
    let plain := a.keeping none
    let audited := a.keeping (some name)
    let told := plain.told r s
    (∀ trail : Trail,
      (audited.run r).answer (s.withTrail name trail) = (plain.run r).answer s ∧
      (audited.run r.writing).noted (s.withTrail name trail) = (plain.run r.writing).noted s ∧
      (audited.run r).after (s.withTrail name trail) =
        ((plain.run r).after s).withTrail name (trail.recordAll told) ∧
      ∀ t, (trail.recordAll told).history t = trail.history t ++ toldFor t told) ∧
    ToldInOrder (s.store.snapshot.asked a.targets) told ((plain.run r).answer s) ∧
    (s.store.snapshot.asked a.targets = [] → ∀ trail : Trail, trail.recordAll told = trail) := by
  intro plain audited told
  have inOrder := plain.toldInOrder r hs.consistent
  rw [a.targets_keeping] at inOrder
  refine ⟨fun trail => ?_, inOrder, fun nobody trail => ?_⟩
  swap
  · have nothing := inOrder.reached
    rw [nobody, List.prefix_nil, List.map_eq_nil_iff] at nothing
    rw [show told = [] from nothing]
    rfl
  obtain ⟨ended, left⟩ := a.tells hr s trail
  obtain ⟨-, written⟩ := a.tells hr.writing (s.withNotes []) trail
  have calls := congrArg Session.notes written
  exact ⟨ended.symm, calls, left, trail.history_recordAll told⟩

/-- Fields are marked, and classes are refused. -/
def refusing : Roster Nat Unit Unit PlainUnit where
  transformer k i :=
    { fieldwise.transformer k i with
      transform := fun unit _ =>
        return if k = .cls then .error "no" else .ok (PlainUnit.mark (toString i) k unit) }

/-- The field is told of already. What comes of it and of its class is put at the end. -/
theorem trail_only_watches_refusing :
    let f : PlainMember := { name := "f", descriptor := "I" }
    let a : Application Unit PlainUnit PlainClass := .cls { name := "a/B", fields := [f] } {}
    let s₀ : Session Nat Unit := { store := .empty, host := () }
    let s₁ := (register refusing ⟨.field, 1⟩).after s₀
    let s := (register refusing ⟨.cls, 2⟩).after s₁
    let field : Target := .ofField "a.B" "f" "I"
    let trail := Trail.empty.record field [⟨"0", .declined⟩]
    let audited := (a.keeping (some "audit")).run refusing
    audited.answer (s.withTrail "audit" trail) =
        .ok (.error (.failed (.ofClass "a.B") "2" "no")) ∧
      ((audited.after (s.withTrail "audit" trail)).trails "audit").history field =
        [⟨"0", .declined⟩, ⟨"1", .applied⟩] ∧
      ((audited.after (s.withTrail "audit" trail)).trails "audit").history (.ofClass "a.B") =
        [⟨"2", .failed⟩] := by
  intro f a s₀ s₁ s field trail audited
  have plain : refusing.DeclaresUnder growth := ⟨fun _ => obeys_pure _, fun _ => obeys_pure _⟩
  have began : s₀.store.Reachable := Store.reachable_empty {}
  have first : s₁.store.Reachable := began.grow (register_obeys growth_allowsChanges plain s₀)
  have next : s.store.Reachable := first.grow (register_obeys growth_allowsChanges plain s₁)
  have blind : refusing.IgnoresTrail "audit" := fun _ _ _ =>
    ⟨inStep_pure _, fun _ => inStep_pure _, fun _ _ => inStep_pure _⟩
  obtain ⟨watched, -⟩ := trail_only_watches refusing "audit" blind a s next
  obtain ⟨ended, -, left, tells⟩ := watched trail
  have told : (a.keeping none).told refusing s =
      [(field, [⟨"1", .applied⟩]), (.ofClass "a.B", [⟨"2", .failed⟩])] := by decide +kernel
  rw [told] at left tells
  refine ⟨?_, ?_, ?_⟩
  · rw [ended]
    decide +kernel
  · rw [left, Session.trails_withTrail, tells]
    decide +kernel
  · rw [left, Session.trails_withTrail, tells]
    decide +kernel

end TransformRegistry
