import TransformRegistry.Application.ClassLoad
import TransformRegistry.Gathering.Gather
import TransformRegistry.Session.Diagnostics
import TransformRegistry.Proofs.Rounds

/-!
# What a call has from the calls it is made of

Every call of the registry is made of calls of transformers and services, of looks at the store, of
reports, and of very little besides. A property that such compositions keep is a property of the
whole call as soon as the transformers and services have it.
-/

namespace TransformRegistry

variable {I H E : Type}

open SessionM

/-- A property that passes from calls to their compositions. -/
structure Composable (K : {α : Type} → SessionM I H α → Prop) : Prop where
  pure : ∀ {α : Type} (a : α), K (pure a : SessionM I H α)
  bind : ∀ {α β : Type} {x : SessionM I H α} {f : α → SessionM I H β},
    K x → (∀ a, K (f a)) → K (x >>= f)
  isolate : ∀ {α : Type} {x : SessionM I H α}, K x → K (isolate x)

/-- A property that, besides, looks at the store and reports have. -/
structure Heritable (K : {α : Type} → SessionM I H α → Prop) : Prop extends Composable K where
  getStore : K (getStore : SessionM I H (Store I))
  report : ∀ e, K (report e : SessionM I H Unit)

variable {K : {α : Type} → SessionM I H α → Prop}

theorem Composable.map (hK : Composable K) {α β : Type} (f : α → β) {x : SessionM I H α}
    (hx : K x) : K (f <$> x) := by
  rw [← bind_pure_comp]
  exact hK.bind hx fun _ => hK.pure _

/-! ## What is so and stays so -/

/-- What is so of the store and the host stays so, also when the call crashes. -/
def SessionM.Keeps {α : Type} (P : Store I → H → Prop) (x : SessionM I H α) : Prop :=
  ∀ s, P s.store s.host → P (x.after s).store (x.after s).host

theorem keeps_heritable (P : Store I → H → Prop) : Heritable (Keeps P) where
  pure _ _ hs := hs
  bind hx hf s hs := by
    have first := hx s hs
    rw [after_bind]
    split
    · exact hf _ _ first
    · exact first
  isolate hx s hs := by
    rw [after_of_ok (isolate_apply _ s)]
    exact hx s hs
  getStore _ hs := hs
  report _ _ hs := hs

/-! ## What does not crash -/

/-- The call ends with a value in every session. -/
def SessionM.Ends {α : Type} (x : SessionM I H α) : Prop := ∀ s, ∃ a, x.answer s = .ok a

theorem SessionM.Ends.ne_error {α : Type} {x : SessionM I H α} (hx : x.Ends) (s t : Session I H)
    (c : Crash) : x s ≠ .error c t := by
  obtain ⟨a, ended⟩ := hx s
  rw [eq_ok_of_answer ended]
  nofun

theorem ends_heritable : Heritable (I := I) (H := H) Ends where
  pure a _ := ⟨a, rfl⟩
  bind := by
    intro α β x f hx hf s
    obtain ⟨a, ends⟩ := hx s
    rw [answer_bind, ends]
    exact hf a _
  isolate := by
    intro α x hx s
    exact ⟨x.answer s, answer_of_ok (isolate_apply x s)⟩
  getStore s := ⟨s.store, rfl⟩
  report _ _ := ⟨(), rfl⟩

/-! ## Transformers and services with the property -/

structure Transformer.AppliesWith {U : Type} (t : Transformer I H E U)
    (K : {α : Type} → SessionM I H α → Prop) : Prop where
  label : K t.label
  vote : ∀ ballot, K (t.vote ballot)
  transform : ∀ unit ballot, K (t.transform unit ballot)

section Rosters

variable {U : Kind → Type}

def Roster.AppliesWith (r : Roster I H E U) (K : {α : Type} → SessionM I H α → Prop) : Prop :=
  ∀ k i, (r.transformer k i).AppliesWith K

structure Roster.DeclaresWith (r : Roster I H E U) (K : {α : Type} → SessionM I H α → Prop) :
    Prop where
  label : ∀ h, K (r.label h)
  targets : ∀ h, K (r.targets h)

end Rosters

/-! ## Applying transformers -/

/-- The property is that of every entry in a trail. -/
def RecordsWith (K : {α : Type} → SessionM I H α → Prop) : Prop :=
  ∀ trail? t history, K (record trail? t history : SessionM I H Unit)

theorem keeps_records (P : Store I → H → Prop) : RecordsWith (Keeps P) := by
  intro trail? t history s hs
  cases trail? <;> exact hs

theorem ends_records : RecordsWith (I := I) (H := H) Ends := by
  intro trail? t history s
  cases trail? <;> exact ⟨(), rfl⟩

section Application

variable {U : Type}

theorem Heritable.ask (hK : Heritable K) {t : Transformer I H E U} (ht : t.AppliesWith K)
    {target : Target} {load : LoadContext E} {pass : Pass} {unit : U} {history : List Entry} :
    K (ask target load pass unit history t) := by
  unfold TransformRegistry.ask
  refine hK.bind ht.label fun label => ?_
  refine hK.bind (ht.vote _) fun vote => ?_
  refine hK.bind (hK.report _) fun _ => ?_
  cases vote with
  | yes =>
    refine hK.bind (ht.transform _ _) fun result => ?_
    cases result <;> exact hK.pure _
  | no => exact hK.pure _
  | defer => exact hK.pure _

theorem Heritable.askQueue (hK : Heritable K) {target : Target} {load : LoadContext E} {unit : U}
    {history : List Entry} {queue : List (Transformer I H E U × Pass)}
    (hq : ∀ e ∈ queue, e.1.AppliesWith K) : K (askQueue target load unit history queue) := by
  induction left : questionsLeft queue using Nat.strongRecOn
    generalizing queue unit history with
  | ind n ih =>
    subst left
    rcases queue with _ | ⟨⟨t, pass⟩, rest⟩
    · rw [TransformRegistry.askQueue]
      exact hK.pure _
    have ht := hq _ List.mem_cons_self
    have hrest : ∀ e ∈ rest, e.1.AppliesWith K := fun e he => hq e (List.mem_cons_of_mem _ he)
    have popped := questionsLeft_pop (t, pass) rest
    rw [askQueue_cons]
    refine hK.bind (hK.ask ht) fun reply => ?_
    cases reply with
    | went next entry => exact ih _ popped hrest rfl
    | failed error entry => exact hK.pure _
    | deferred label =>
      cases pass with
      | first =>
        refine ih _ (questionsLeft_requeue t rest) (fun e he => ?_) rfl
        rcases List.mem_append.1 he with h | h
        · exact hrest e h
        · rw [List.mem_singleton.1 h]
          exact ht
      | second => exact hK.bind (hK.report _) fun _ => ih _ popped hrest rfl

theorem Heritable.attempt (hK : Heritable K) (records : RecordsWith K)
    {sequence : List (Transformer I H E U)} (hs : ∀ t ∈ sequence, t.AppliesWith K) {unit : U}
    {target : Target} {load : LoadContext E} : K (attempt sequence unit target load) := by
  unfold TransformRegistry.attempt
  split
  · exact hK.pure _
  · refine hK.bind (hK.askQueue fun e he => ?_) fun ⟨result, history⟩ => ?_
    · obtain ⟨t, ht, rfl⟩ := List.mem_map.1 he
      exact hs t ht
    · exact hK.bind (records _ _ _) fun _ => hK.pure _

end Application

variable {U : Kind → Type} {r : Roster I H E U}

theorem Heritable.ask_transformers (hK : Heritable K) (hr : r.AppliesWith K) {s : Snapshot I}
    {k : Kind} {t target : Target} {unit : U k} {load : LoadContext E} {history : List Entry} :
    K (TransformRegistry.askQueue target load unit history
      ((s.transformers r k t).map (·, .first))) := by
  refine hK.askQueue fun e he => ?_
  obtain ⟨x, hx, rfl⟩ := List.mem_map.1 he
  obtain ⟨i, -, rfl⟩ := List.mem_map.1 hx
  exact hr k i

theorem Heritable.attempt_transformers (hK : Heritable K) (records : RecordsWith K)
    (hr : r.AppliesWith K) {s : Snapshot I} {k : Kind} {t target : Target} {unit : U k}
    {load : LoadContext E} :
    K (TransformRegistry.attempt (s.transformers r k t) unit target load) := by
  refine hK.attempt records (fun x hx => ?_)
  obtain ⟨i, -, rfl⟩ := List.mem_map.1 hx
  exact hr k i

theorem Heritable.transformUnit (hK : Heritable K) (records : RecordsWith K)
    (hr : r.AppliesWith K) {k : Kind} {unit : U k} {target : Target} {load : LoadContext E} :
    K (transformUnit r k unit target load) := by
  unfold TransformRegistry.transformUnit
  split
  · exact hK.pure _
  · exact hK.bind hK.getStore fun _ => hK.attempt_transformers records hr

theorem Heritable.transformAny (hK : Heritable K) (records : RecordsWith K)
    (hr : r.AppliesWith K) {u : CodeUnit U} {target : Target} {load : LoadContext E} :
    K (transformAny r u target load) := by
  unfold TransformRegistry.transformAny
  refine hK.bind (hK.transformUnit records hr) fun result => ?_
  cases result <;> exact hK.pure _

theorem Heritable.transformMembers (hK : Heritable K) (records : RecordsWith K)
    (hr : r.AppliesWith K) {s : Snapshot I} {load : LoadContext E} {k : Kind}
    {targetOf : U k → Target} {members : List (U k)} :
    K (transformMembers r s load k targetOf members) := by
  induction members with
  | nil => exact hK.pure _
  | cons member rest ih =>
    unfold TransformRegistry.transformMembers
    refine hK.bind (hK.attempt_transformers records hr) fun result => ?_
    cases result with
    | error e => exact hK.pure _
    | ok unit =>
      refine hK.bind ih fun result => ?_
      cases result <;> exact hK.pure _

theorem Heritable.loadClass [ClassShape U] (hK : Heritable K) (records : RecordsWith K)
    (hr : r.AppliesWith K) {cls : U .cls} {load : LoadContext E} :
    K (loadClass r cls load) := by
  unfold TransformRegistry.loadClass
  refine hK.bind hK.getStore fun store => ?_
  dsimp only
  split
  · exact hK.pure _
  refine hK.bind (hK.transformMembers records hr) fun result => ?_
  cases result with
  | error e => exact hK.pure _
  | ok fields =>
    refine hK.bind (hK.transformMembers records hr) fun result => ?_
    cases result with
    | error e => exact hK.pure _
    | ok methods =>
      refine hK.bind (hK.attempt_transformers records hr) fun result => ?_
      cases result with
      | error e => exact hK.pure _
      | ok cls => exact hK.bind (hK.report _) fun _ => hK.pure _

/-! ## Registering -/

variable [DecidableEq I]

omit [DecidableEq I] in
theorem Heritable.reportRepeats (hK : Heritable K) {h : Handle I} (hl : K (r.label h))
    {targets : List Target} : K (reportRepeats r h targets) := by
  induction targets with
  | nil => exact hK.pure _
  | cons t rest ih =>
    unfold TransformRegistry.reportRepeats reportRepeat
    refine hK.bind ?_ fun _ => ih
    exact hK.bind hl fun _ => hK.report _

/-- The property is that of every crash. -/
def CrashesWith (K : {α : Type} → SessionM I H α → Prop) : Prop :=
  ∀ {α : Type} (c : Crash), K (crash c : SessionM I H α)

/-- The property is that of every change that the registry makes to a store, and of giving up. -/
structure ChangesWith (K : {α : Type} → SessionM I H α → Prop) : Prop where
  swap : ∀ {store next : Store I} {h : Handle I} {declared done},
    store.accept h declared = .ok (done, next) → K (swap store next)
  close : K sealStore
  crash : CrashesWith K

theorem Heritable.takeIn (hK : Heritable K) (changes : ChangesWith K) {h : Handle I}
    (hl : K (r.label h)) {label : String} {declared : List Target} {n : Nat} :
    K (takeIn r h label declared n) := by
  induction n with
  | zero => exact changes.crash _
  | succ n ih =>
    unfold TransformRegistry.takeIn
    refine hK.bind hK.getStore fun store => ?_
    cases decided : store.accept h declared with
    | error refusal =>
      cases refusal with
      | alreadyRegistered t => exact hK.bind hl fun _ => hK.pure _
      | _ => exact hK.pure _
    | ok result =>
      refine hK.bind (hK.reportRepeats hl) fun _ => ?_
      refine hK.bind (changes.swap decided) fun swapped => ?_
      cases swapped with
      | true => exact hK.bind (hK.report _) fun _ => hK.pure _
      | false => exact ih

theorem Heritable.registerFor (hK : Heritable K) (changes : ChangesWith K) (hr : r.DeclaresWith K)
    {h : Handle I} {declared : List Target} : K (registerFor r h declared) :=
  hK.bind (hr.label h) fun _ => hK.takeIn changes (hr.label h)

theorem Heritable.register (hK : Heritable K) (changes : ChangesWith K) (hr : r.DeclaresWith K)
    {h : Handle I} : K (register r h) := by
  unfold TransformRegistry.register
  refine hK.bind hK.getStore fun store => ?_
  split
  · exact hK.bind (hr.label h) fun _ => hK.pure _
  · exact hK.bind (hr.targets h) fun _ => hK.registerFor changes hr

/-! ## Gathering -/

omit [DecidableEq I] in
theorem Composable.declare (hK : Composable K) (hr : r.DeclaresWith K) {handles : List (Handle I)} :
    K (declare r handles) := by
  induction handles with
  | nil => exact hK.pure _
  | cons h rest ih =>
    unfold TransformRegistry.declare
    refine hK.bind (hK.map _ (hr.label h)) fun _ => ?_
    refine hK.bind (hr.targets h) fun _ => ?_
    exact hK.bind ih fun _ => hK.pure _

omit [DecidableEq I] in
theorem Composable.contribution (hK : Composable K) (hr : r.DeclaresWith K) {s : Service I H}
    (hs : K s.transformers) : K (s.contribution r) := by
  have asked : K (s.declarations r) := by
    unfold Service.declarations
    refine hK.bind hs fun result => ?_
    cases result with
    | error reason => exact hK.pure _
    | ok handles => exact hK.bind (hK.declare hr) fun _ => hK.pure _
  unfold Service.contribution
  refine hK.bind (hK.isolate asked) fun result => ?_
  rcases result with crash | reason | declared <;> exact hK.pure _

theorem Heritable.registerAll (hK : Heritable K) (changes : ChangesWith K) (hr : r.DeclaresWith K)
    {declared : List (Declaration I)} : K (registerAll r declared) := by
  induction declared with
  | nil => exact hK.pure _
  | cons d rest ih =>
    unfold TransformRegistry.registerAll
    refine hK.bind (hK.registerFor changes hr) fun result => ?_
    cases result with
    | error e => exact hK.pure _
    | ok placements => exact ih

theorem Heritable.gatherService (hK : Heritable K) (changes : ChangesWith K)
    (hr : r.DeclaresWith K) {s : Service I H} (hs : K s.transformers) : K (s.gather r) := by
  unfold Service.gather
  refine hK.bind (hK.contribution hr hs) fun result => ?_
  cases result with
  | error e => exact hK.pure _
  | ok declared =>
    refine hK.bind (hK.registerAll changes hr) fun result => ?_
    cases result with
    | error e => exact hK.pure _
    | ok _ => exact hK.bind (hK.report _) fun _ => hK.pure _

theorem Heritable.gatherEach (hK : Heritable K) (changes : ChangesWith K)
    (hr : r.DeclaresWith K) {services : List (Service I H)}
    (hs : ∀ s ∈ services, K s.transformers) {g : Harvest} : K (gatherEach r g services) := by
  induction services generalizing g with
  | nil => exact hK.pure _
  | cons s rest ih =>
    have hrest : ∀ x ∈ rest, K x.transformers := fun x hx => hs x (List.mem_cons_of_mem _ hx)
    unfold TransformRegistry.gatherEach
    refine hK.bind (hK.gatherService changes hr (hs s List.mem_cons_self)) fun result => ?_
    rcases result with (e | ⟨name, e⟩) | count
    · exact hK.bind (hK.report _) fun _ => ih hrest
    · exact hK.pure _
    · exact ih hrest

theorem Heritable.gatherAll (hK : Heritable K) (changes : ChangesWith K)
    (hr : r.DeclaresWith K) {services : Services I H}
    (hs : ∀ s ∈ services.list, K s.transformers) : K (services.gather r) := by
  unfold Services.gather
  refine hK.bind (hK.gatherEach changes hr hs) fun result => ?_
  cases result with
  | error e => exact hK.pure _
  | ok g =>
    refine hK.bind hK.getStore fun store => ?_
    dsimp only
    split
    · refine hK.bind changes.close fun _ => ?_
      exact hK.bind (hK.report _) fun _ => hK.pure _
    · exact hK.bind (hK.report _) fun _ => hK.pure _

/-! ## Describing -/

omit [DecidableEq I] in
theorem Composable.labels (hK : Composable K) {k : Kind} {ids : List I}
    (hr : ∀ i ∈ ids, K (r.label ⟨k, i⟩)) : K (r.labels k ids) := by
  induction ids with
  | nil => exact hK.pure _
  | cons i rest ih =>
    rw [List.forall_mem_cons] at hr
    unfold Roster.labels
    refine hK.bind hr.1 fun _ => ?_
    exact hK.bind (ih hr.2) fun _ => hK.pure _

omit [DecidableEq I] in
theorem Composable.describeTargets (hK : Composable K) {k : Kind} {entries : List (Target × List I)}
    (hr : ∀ e ∈ entries, ∀ i ∈ e.2, K (r.label ⟨k, i⟩)) :
    K (Snapshot.describeTargets r k entries) := by
  induction entries with
  | nil => exact hK.pure _
  | cons e rest ih =>
    rw [List.forall_mem_cons] at hr
    unfold Snapshot.describeTargets
    refine hK.bind (hK.labels hr.1) fun _ => ?_
    exact hK.bind (ih hr.2) fun _ => hK.pure _

omit [DecidableEq I] in
/-- Only those that are in the snapshot are asked for labels. -/
theorem Composable.description_of_listed (hK : Composable K) {s : Snapshot I}
    (hr : ∀ k ix, s.indexes.get k = some ix → ∀ e ∈ ix.sequences.entries, ∀ i ∈ e.2,
      K (r.label ⟨k, i⟩)) : K (s.description r) := by
  have kind : ∀ k, K (s.describeKind r k) := by
    intro k
    unfold Snapshot.describeKind
    split
    · exact hK.pure _
    · next ix present => exact hK.bind (hK.describeTargets (hr k ix present)) fun _ => hK.pure _
  unfold Snapshot.description
  refine hK.bind (kind .cls) fun _ => ?_
  refine hK.bind (kind .method) fun _ => ?_
  refine hK.bind (kind .field) fun _ => ?_
  exact hK.pure _

omit [DecidableEq I] in
theorem Composable.description (hK : Composable K) (hr : r.DeclaresWith K) {s : Snapshot I} :
    K (s.description r) :=
  hK.description_of_listed fun _ _ _ _ _ _ _ => hr.label _

end TransformRegistry
