import Mathlib.Data.List.Forall2
import TransformRegistry.Application.ClassLoad
import TransformRegistry.Proofs.Rounds

/-!
# Two sessions side by side

Two calls are in step if, begun in sessions that belong together, they end alike and leave sessions
that belong together. When transformers are in step, so is everything that is done with them: the
registry does the same for both, and looks at the store only to begin with. It does not look inside
a unit either, so transformers may be given different units, as long as these correspond.
-/

namespace TransformRegistry

variable {I H G E α β : Type} {R : Session I H → Session I G → Prop} {s : Session I H}
  {t : Session I G}

/-- Both fail alike, or both give values that correspond. -/
inductive EndAlike {ε : Type} (V : α → β → Prop) : Except ε α → Except ε β → Prop
  | ok {a : α} {b : β} : V a b → EndAlike V (.ok a) (.ok b)
  | error (e : ε) : EndAlike V (.error e) (.error e)

theorem endAlike_eq {ε : Type} :
    (EndAlike (Eq : α → α → Prop) : Except ε α → Except ε α → Prop) = Eq := by
  funext x y
  apply propext
  constructor
  · rintro (rfl | e) <;> rfl
  · rintro rfl
    cases x with
    | ok a => exact .ok rfl
    | error e => exact .error e

namespace SessionM

/-- From these sessions, the calls end alike and leave sessions that belong together. -/
def Meet (R : Session I H → Session I G → Prop) (x : SessionM I H α) (y : SessionM I G α)
    (s : Session I H) (t : Session I G) : Prop :=
  x.answer s = y.answer t ∧ R (x.after s) (y.after t)

def InStep (R : Session I H → Session I G → Prop) (x : SessionM I H α) (y : SessionM I G α) :
    Prop :=
  ∀ s t, R s t → Meet R x y s t

/-! ## Values that correspond -/

/-- As when the calls meet, but that their values need only correspond. -/
def MeetUpTo (R : Session I H → Session I G → Prop) (V : α → β → Prop) (x : SessionM I H α)
    (y : SessionM I G β) (s : Session I H) (t : Session I G) : Prop :=
  EndAlike V (x.answer s) (y.answer t) ∧ R (x.after s) (y.after t)

def InStepUpTo (R : Session I H → Session I G → Prop) (V : α → β → Prop) (x : SessionM I H α)
    (y : SessionM I G β) : Prop :=
  ∀ s t, R s t → MeetUpTo R V x y s t

theorem meet_iff {x : SessionM I H α} {y : SessionM I G α} :
    Meet R x y s t ↔ MeetUpTo R Eq x y s t := by
  unfold Meet MeetUpTo
  rw [endAlike_eq]

theorem inStep_iff {x : SessionM I H α} {y : SessionM I G α} :
    InStep R x y ↔ InStepUpTo R Eq x y :=
  forall₃_congr fun _ _ _ => meet_iff

/-! ## Calls made of calls -/

theorem inStepUpTo_pure {V : α → β → Prop} {a : α} {b : β} (h : V a b) :
    InStepUpTo R V (pure a) (pure b) := fun _ _ hst => ⟨.ok h, hst⟩

theorem inStep_pure (a : α) : InStep R (pure a) (pure a) := fun _ _ h => ⟨rfl, h⟩

section Binds

variable {γ δ : Type} {V : α → β → Prop} {W : γ → δ → Prop}

theorem MeetUpTo.bind {x : SessionM I H α} {y : SessionM I G β} {f : α → SessionM I H γ}
    {g : β → SessionM I G δ} (hxy : MeetUpTo R V x y s t)
    (hfg : ∀ a b, V a b → InStepUpTo R W (f a) (g b)) :
    MeetUpTo R W (x >>= f) (y >>= g) s t := by
  obtain ⟨same, left⟩ := hxy
  unfold MeetUpTo
  rw [answer_bind, answer_bind, after_bind, after_bind]
  generalize x.answer s = found, y.answer t = other at same
  cases same with
  | ok values => exact hfg _ _ values _ _ left
  | error crash => exact ⟨.error crash, left⟩

theorem InStepUpTo.bind {x : SessionM I H α} {y : SessionM I G β} {f : α → SessionM I H γ}
    {g : β → SessionM I G δ} (hxy : InStepUpTo R V x y)
    (hfg : ∀ a b, V a b → InStepUpTo R W (f a) (g b)) :
    InStepUpTo R W (x >>= f) (y >>= g) := fun s t h => (hxy s t h).bind hfg

theorem InStep.bindUpTo {x : SessionM I H α} {y : SessionM I G α} {f : α → SessionM I H γ}
    {g : α → SessionM I G δ} (hxy : InStep R x y) (hfg : ∀ a, InStepUpTo R W (f a) (g a)) :
    InStepUpTo R W (x >>= f) (y >>= g) := by
  refine (inStep_iff.1 hxy).bind fun a b same => ?_
  subst same
  exact hfg a

theorem InStep.meet_bind {x : SessionM I H α} {y : SessionM I G α} {f : α → SessionM I H β}
    {g : α → SessionM I G β} (hxy : Meet R x y s t) (hfg : ∀ a, InStep R (f a) (g a)) :
    Meet R (x >>= f) (y >>= g) s t := by
  refine meet_iff.2 ((meet_iff.1 hxy).bind fun a b same => ?_)
  subst same
  exact inStep_iff.1 (hfg a)

theorem InStep.bind {x : SessionM I H α} {y : SessionM I G α} {f : α → SessionM I H β}
    {g : α → SessionM I G β} (hxy : InStep R x y) (hfg : ∀ a, InStep R (f a) (g a)) :
    InStep R (x >>= f) (y >>= g) := fun s t h => meet_bind (hxy s t h) hfg

theorem meetUpTo_getStore {f : Store I → SessionM I H α} {g : Store I → SessionM I G β}
    (h : R s t) (same : s.store = t.store) (hfg : InStepUpTo R V (f s.store) (g s.store)) :
    MeetUpTo R V (getStore >>= f) (getStore >>= g) s t := by
  have found : (getStore >>= g) t = g s.store t := by rw [same]; rfl
  have meet := hfg s t h
  unfold MeetUpTo answer after at meet ⊢
  rw [found]
  exact meet

end Binds

end SessionM

open SessionM

/-- Sessions that belong together still do so after the same report. -/
def ReportsInStep (R : Session I H → Session I G → Prop) : Prop :=
  ∀ e, InStep R (report e) (report e)

/-- They do so, besides, after the same entry in a trail. -/
structure Companions (R : Session I H → Session I G → Prop) : Prop where
  report : ReportsInStep R
  record : ∀ trail? t history, InStep R (record trail? t history) (record trail? t history)

/-- Two transformers that are in step whenever they are applied. -/
structure Transformer.InStep {U : Type} (R : Session I H → Session I G → Prop)
    (a : Transformer I H E U) (b : Transformer I G E U) : Prop where
  label : SessionM.InStep R a.label b.label
  vote : ∀ ballot, SessionM.InStep R (a.vote ballot) (b.vote ballot)
  transform : ∀ unit ballot, SessionM.InStep R (a.transform unit ballot) (b.transform unit ballot)

/-- As when transformers are in step, but that they are given units that correspond, and give such
units in turn. -/
structure Transformer.InStepUpTo {U W : Type} (R : Session I H → Session I G → Prop)
    (V : U → W → Prop) (a : Transformer I H E U) (b : Transformer I G E W) : Prop where
  label : SessionM.InStep R a.label b.label
  vote : ∀ ballot, SessionM.InStep R (a.vote ballot) (b.vote ballot)
  transform : ∀ unit other, V unit other → ∀ ballot,
    SessionM.InStepUpTo R (EndAlike V) (a.transform unit ballot) (b.transform other ballot)

theorem Transformer.inStep_iff {U : Type} {a : Transformer I H E U} {b : Transformer I G E U} :
    a.InStep R b ↔ a.InStepUpTo R Eq b := by
  constructor
  · intro hab
    refine ⟨hab.label, hab.vote, ?_⟩
    rintro unit _ rfl ballot
    rw [endAlike_eq, ← SessionM.inStep_iff]
    exact hab.transform unit ballot
  · intro hab
    refine ⟨hab.label, hab.vote, fun unit ballot => ?_⟩
    rw [SessionM.inStep_iff, ← endAlike_eq]
    exact hab.transform unit unit rfl ballot

/-! ## Calls that are written down -/

section Notes

variable {N V ν : Type}

/-- The sessions belong together, and the same is noted in both. -/
def AlsoInNotes (R : Session I H → Session I G → Prop) (s : Session I (H × N))
    (t : Session I (G × N)) : Prop :=
  R s.withoutNotes t.withoutNotes ∧ t.notes = s.notes

/-- A session and one with notes beside it. -/
def BesideNotes (s : Session I H) (t : Session I (H × N)) : Prop := t.withoutNotes = s

theorem companions_besideNotes : Companions (BesideNotes (I := I) (H := H) (N := N)) where
  report e := by
    rintro s t rfl
    exact ⟨rfl, rfl⟩
  record trail? target history := by
    rintro s t rfl
    cases trail? <;> exact ⟨rfl, rfl⟩

theorem SessionM.inStep_besideNotes (x : SessionM I H α) :
    SessionM.InStep (BesideNotes (N := N)) x (besideNotes x) := by
  rintro s t rfl
  unfold SessionM.Meet
  rw [answer_besideNotes, after_besideNotes]
  exact ⟨rfl, rfl⟩

theorem Transformer.inStep_writing {U : Type} (t : Transformer I H E U) (who : ν) (seen : U → V) :
    t.InStep BesideNotes (t.writing who seen) where
  label := SessionM.inStep_besideNotes _
  vote _ := by
    rintro s t rfl
    exact SessionM.inStep_besideNotes _ _ _ rfl
  transform _ _ := by
    rintro s t rfl
    exact SessionM.inStep_besideNotes _ _ _ rfl

theorem SessionM.inStep_note (c : N) :
    SessionM.InStep (AlsoInNotes R) (note c) (note c) := by
  rintro s t ⟨bare, notes⟩
  refine ⟨rfl, bare, ?_⟩
  exact congrArg (· ++ [c]) notes

/-- The sessions belong together, and the notes beside them correspond. -/
def AlsoInNotesUpTo {M : Type} (R : Session I H → Session I G → Prop) (S : N → M → Prop)
    (s : Session I (H × N)) (t : Session I (G × M)) : Prop :=
  R s.withoutNotes t.withoutNotes ∧ S s.notes t.notes

theorem alsoInNotes_eq : AlsoInNotes (N := N) R = AlsoInNotesUpTo R fun m n => n = m := rfl

theorem SessionM.inStep_note_upTo {M : Type} {S : N → M → Prop} {c : N} {d : M} (same : S c d) :
    SessionM.InStep (AlsoInNotesUpTo R (List.Forall₂ S)) (note c) (note d) := by
  rintro s t ⟨bare, notes⟩
  exact ⟨rfl, bare, List.rel_append notes (.cons same .nil)⟩

theorem SessionM.InStepUpTo.besideNotes {M : Type} {S : N → M → Prop} {V : α → β → Prop}
    {x : SessionM I H α} {y : SessionM I G β} (hxy : SessionM.InStepUpTo R V x y) :
    SessionM.InStepUpTo (AlsoInNotesUpTo R S) V (besideNotes x) (besideNotes y) := by
  rintro s t ⟨bare, notes⟩
  obtain ⟨same, left⟩ := hxy _ _ bare
  unfold SessionM.MeetUpTo
  rw [answer_besideNotes, answer_besideNotes, after_besideNotes, after_besideNotes]
  exact ⟨same, left, notes⟩

theorem SessionM.InStep.besideNotesUpTo {M : Type} {S : N → M → Prop} {x : SessionM I H α}
    {y : SessionM I G α} (hxy : SessionM.InStep R x y) :
    SessionM.InStep (AlsoInNotesUpTo R S) (besideNotes x) (besideNotes y) :=
  SessionM.inStep_iff.2 (SessionM.inStep_iff.1 hxy).besideNotes

theorem SessionM.InStep.besideNotes {x : SessionM I H α} {y : SessionM I G α}
    (hxy : SessionM.InStep R x y) :
    SessionM.InStep (AlsoInNotes (N := N) R) (besideNotes x) (besideNotes y) := by
  rw [alsoInNotes_eq]
  exact hxy.besideNotesUpTo

theorem Transformer.InStep.writing {U : Type} {a : Transformer I H E U} {b : Transformer I G E U}
    (hab : a.InStep R b) (who : ν) (seen : U → V) :
    (a.writing who seen).InStep (AlsoInNotes R) (b.writing who seen) where
  label := hab.label.besideNotes
  vote ballot := (inStep_note _).bind fun _ => (hab.vote ballot).besideNotes
  transform unit ballot := (inStep_note _).bind fun _ => (hab.transform unit ballot).besideNotes

theorem Transformer.InStepUpTo.writing {U : Type} {W : U → U → Prop}
    {S : Call ν E V → Call ν E V → Prop} {a : Transformer I H E U} {b : Transformer I G E U}
    (hab : a.InStepUpTo R W b) {who : ν} {seen : U → V}
    (asked : ∀ ballot, S (.vote who ballot) (.vote who ballot))
    (applied : ∀ unit other, W unit other → ∀ ballot,
      S (.transform who (seen unit) ballot) (.transform who (seen other) ballot)) :
    (a.writing who seen).InStepUpTo (AlsoInNotesUpTo R (List.Forall₂ S)) W
      (b.writing who seen) where
  label := hab.label.besideNotesUpTo
  vote ballot :=
    (inStep_note_upTo (asked ballot)).bind fun _ => (hab.vote ballot).besideNotesUpTo
  transform unit other units ballot :=
    (inStep_note_upTo (applied unit other units ballot)).bindUpTo fun _ =>
      (hab.transform unit other units ballot).besideNotes

end Notes

/-! ## Attempts -/

section Attempts

variable {U W : Type} {V : U → W → Prop}

/-- The same is said, of units that correspond. -/
inductive Reply.UpTo (V : U → W → Prop) : Reply U → Reply W → Prop
  | went {unit : U} {other : W} (entry : Entry) : V unit other →
      UpTo V (.went unit entry) (.went other entry)
  | deferred (label : String) : UpTo V (.deferred label) (.deferred label)
  | failed (error : TransformError) (entry : Entry) :
      UpTo V (.failed error entry) (.failed error entry)

/-- The same is told of what became of units that correspond. -/
def ToldAlike (V : U → W → Prop) (found : Except TransformError U × List Entry)
    (other : Except TransformError W × List Entry) : Prop :=
  EndAlike V found.1 other.1 ∧ found.2 = other.2

namespace ReportsInStep

theorem ask (hR : ReportsInStep R) {a : Transformer I H E U} {b : Transformer I G E W}
    (hab : a.InStepUpTo R V b) {target : Target} {load : LoadContext E} {pass : Pass} {unit : U}
    {other : W} (units : V unit other) {history : List Entry} :
    InStepUpTo R (Reply.UpTo V) (ask target load pass unit history a)
      (ask target load pass other history b) := by
  unfold TransformRegistry.ask
  refine hab.label.bindUpTo fun label => ?_
  refine (hab.vote _).bindUpTo fun vote => ?_
  refine (hR _).bindUpTo fun _ => ?_
  cases vote with
  | yes =>
    refine (hab.transform _ _ units _).bind fun result next same => ?_
    cases same with
    | ok nexts => exact inStepUpTo_pure (.went _ nexts)
    | error reason => exact inStepUpTo_pure (.failed _ _)
  | no => exact inStepUpTo_pure (.went _ units)
  | defer => exact inStepUpTo_pure (.deferred label)

theorem askQueue (hR : ReportsInStep R) {target : Target} {load : LoadContext E} {unit : U}
    {other : W} (units : V unit other) {history : List Entry}
    {queue : List (Transformer I H E U × Pass)} {line : List (Transformer I G E W × Pass)}
    (hq : List.Forall₂ (fun e f => e.1.InStepUpTo R V f.1 ∧ e.2 = f.2) queue line) :
    InStepUpTo R (ToldAlike V) (askQueue target load unit history queue)
      (askQueue target load other history line) := by
  induction left : questionsLeft queue using Nat.strongRecOn
    generalizing queue line unit other history with
  | ind n ih =>
    subst left
    cases hq with
    | nil =>
      rw [TransformRegistry.askQueue, TransformRegistry.askQueue]
      exact inStepUpTo_pure ⟨.ok units, rfl⟩
    | @cons e f rest more hef hrest =>
      obtain ⟨a, pass⟩ := e
      obtain ⟨b, _⟩ := f
      obtain ⟨hab, rfl⟩ := hef
      have popped := questionsLeft_pop (a, pass) rest
      rw [askQueue_cons, askQueue_cons]
      refine (hR.ask hab units).bind fun reply answer same => ?_
      cases same with
      | went entry nexts => exact ih _ popped nexts hrest rfl
      | failed error entry => exact inStepUpTo_pure ⟨.error error, rfl⟩
      | deferred label =>
        cases pass with
        | first =>
          have again : List.Forall₂ (fun e f => e.1.InStepUpTo R V f.1 ∧ e.2 = f.2)
              [(a, Pass.second)] [(b, Pass.second)] := .cons ⟨hab, rfl⟩ .nil
          exact ih _ (questionsLeft_requeue a rest) units (List.rel_append hrest again) rfl
        | second => exact (hR _).bindUpTo fun _ => ih _ popped units hrest rfl

theorem askAllUpTo (hR : ReportsInStep R) {target : Target} {load : LoadContext E} {unit : U}
    {other : W} (units : V unit other) {sequence : List (Transformer I H E U)}
    {line : List (Transformer I G E W)}
    (hs : List.Forall₂ (Transformer.InStepUpTo R V) sequence line) :
    InStepUpTo R (ToldAlike V)
      (TransformRegistry.askQueue target load unit [] (sequence.map (·, .first)))
      (TransformRegistry.askQueue target load other [] (line.map (·, .first))) := by
  refine hR.askQueue units ?_
  rw [List.forall₂_map_left_iff, List.forall₂_map_right_iff]
  exact hs.imp fun _ _ h => ⟨h, rfl⟩

theorem askAll (hR : ReportsInStep R) {target : Target} {load : LoadContext E} {unit : U}
    {sequence : List (Transformer I H E U)} {other : List (Transformer I G E U)}
    (hs : List.Forall₂ (Transformer.InStep R) sequence other) :
    InStep R (TransformRegistry.askQueue target load unit [] (sequence.map (·, .first)))
      (TransformRegistry.askQueue target load unit [] (other.map (·, .first))) := by
  intro s t h
  obtain ⟨same, left⟩ := hR.askAllUpTo rfl (hs.imp fun _ _ h => Transformer.inStep_iff.1 h) s t h
  refine ⟨?_, left⟩
  have told : (ToldAlike Eq : Except TransformError U × List Entry → _ → Prop) = Eq := by
    unfold ToldAlike
    rw [endAlike_eq]
    funext found other
    rw [Prod.ext_iff]
  rw [told, endAlike_eq] at same
  exact same

end ReportsInStep

theorem Companions.attemptUpTo (hR : Companions R) {target : Target} {load : LoadContext E}
    {unit : U} {other : W} (units : V unit other) {sequence : List (Transformer I H E U)}
    {line : List (Transformer I G E W)}
    (hs : List.Forall₂ (Transformer.InStepUpTo R V) sequence line) :
    InStepUpTo R (EndAlike V) (attempt sequence unit target load)
      (attempt line other target load) := by
  unfold TransformRegistry.attempt
  have nobody : sequence.isEmpty = line.isEmpty := by cases hs <;> rfl
  rw [nobody]
  split
  · exact inStepUpTo_pure (.ok units)
  · refine (hR.report.askAllUpTo units hs).bind ?_
    rintro ⟨result, history⟩ ⟨found, _⟩ ⟨same, rfl⟩
    exact (hR.record _ _ _).bindUpTo fun _ => inStepUpTo_pure same

theorem Companions.attempt (hR : Companions R) {target : Target} {load : LoadContext E} {unit : U}
    {sequence : List (Transformer I H E U)} {other : List (Transformer I G E U)}
    (hs : List.Forall₂ (Transformer.InStep R) sequence other) :
    InStep R (attempt sequence unit target load) (attempt other unit target load) := by
  rw [SessionM.inStep_iff, ← endAlike_eq]
  exact hR.attemptUpTo rfl (hs.imp fun _ _ h => Transformer.inStep_iff.1 h)

end Attempts

/-! ## Applying the store -/

variable {U : Kind → Type}

/-- Two rosters whose transformers are in step. -/
def Roster.InStep (R : Session I H → Session I G → Prop) (r : Roster I H E U)
    (q : Roster I G E U) : Prop :=
  ∀ k i, (r.transformer k i).InStep R (q.transformer k i)

theorem Roster.InStep.writing {r : Roster I H E U} {q : Roster I G E U} (hr : r.InStep R q) :
    r.writing.InStep (AlsoInNotes R) q.writing := fun k i => (hr k i).writing ..

/-- What can be asked of a store that applies its transformers. An application gives a unit of a
type. -/
inductive Application (E : Type) (U : Kind → Type) : Type → Type where
  | unit (k : Kind) (u : U k) (target : Target) (load : LoadContext E) : Application E U (U k)
  | any (u : CodeUnit U) (target : Target) (load : LoadContext E) : Application E U (CodeUnit U)
  | cls (c : U .cls) (load : LoadContext E) : Application E U (U .cls)

def Application.run [ClassShape U] (r : Roster I H E U) :
    Application E U α → SessionM I H (Except TransformError α)
  | .unit k u target load => transformUnit r k u target load
  | .any u target load => transformAny r u target load
  | .cls c load => loadClass r c load

/-- Classes that correspond have the same members, and still correspond when both are given the same
others. -/
structure SameParts [ClassShape U] (V : U .cls → U .cls → Prop) : Prop where
  fields : ∀ {c d}, V c d → ClassShape.fields c = ClassShape.fields d
  methods : ∀ {c d}, V c d → ClassShape.methods c = ClassShape.methods d
  setFields : ∀ {c d}, V c d → ∀ fs, V (ClassShape.setFields c fs) (ClassShape.setFields d fs)
  setMethods : ∀ {c d}, V c d → ∀ ms, V (ClassShape.setMethods c ms) (ClassShape.setMethods d ms)

theorem sameParts_eq [ClassShape U] : SameParts (Eq : U .cls → U .cls → Prop) where
  fields := congrArg _
  methods := congrArg _
  setFields same _ := congrArg (ClassShape.setFields · _) same
  setMethods same _ := congrArg (ClassShape.setMethods · _) same

namespace Companions

variable {r : Roster I H E U} {q : Roster I G E U}

theorem attempt_transformersUpTo (hR : Companions R) {k : Kind} {V : U k → U k → Prop}
    {unit other : U k} (units : V unit other) {snapshot : Snapshot I} {target : Target}
    {load : LoadContext E}
    (hr : ∀ i ∈ snapshot.sequence k target,
      (r.transformer k i).InStepUpTo R V (q.transformer k i)) :
    InStepUpTo R (EndAlike V)
      (TransformRegistry.attempt (snapshot.transformers r k target) unit target load)
      (TransformRegistry.attempt (snapshot.transformers q k target) other target load) := by
  refine hR.attemptUpTo units ?_
  unfold Snapshot.transformers
  rw [List.forall₂_map_left_iff, List.forall₂_map_right_iff, List.forall₂_same]
  exact hr

theorem attempt_transformers (hR : Companions R) {snapshot : Snapshot I} {k : Kind}
    (hr : ∀ i, (r.transformer k i).InStep R (q.transformer k i))
    {target : Target} {unit : U k} {load : LoadContext E} :
    InStep R (TransformRegistry.attempt (snapshot.transformers r k target) unit target load)
      (TransformRegistry.attempt (snapshot.transformers q k target) unit target load) := by
  rw [SessionM.inStep_iff, ← endAlike_eq]
  exact hR.attempt_transformersUpTo rfl fun i _ => Transformer.inStep_iff.1 (hr i)

theorem transformMembers (hR : Companions R) {snapshot : Snapshot I} {k : Kind}
    (hr : ∀ i, (r.transformer k i).InStep R (q.transformer k i)) {load : LoadContext E}
    {targetOf : U k → Target} {members : List (U k)} :
    InStep R (transformMembers r snapshot load k targetOf members)
      (transformMembers q snapshot load k targetOf members) := by
  induction members with
  | nil => exact inStep_pure _
  | cons member rest ih =>
    unfold TransformRegistry.transformMembers
    refine (hR.attempt_transformers hr).bind fun result => ?_
    cases result with
    | error e => exact inStep_pure _
    | ok unit =>
      refine ih.bind fun result => ?_
      cases result <;> exact inStep_pure _

theorem transformUnit (hR : Companions R) (hr : r.InStep R q) {k : Kind} {unit : U k}
    {target : Target} {load : LoadContext E} (h : R s t) (same : s.store = t.store) :
    Meet R (transformUnit r k unit target load) (transformUnit q k unit target load) s t := by
  unfold TransformRegistry.transformUnit
  split
  · exact inStep_pure _ s t h
  · rw [meet_iff]
    exact meetUpTo_getStore h same (inStep_iff.1 (hR.attempt_transformers (hr k)))

theorem loadClassUpTo [ClassShape U] (hR : Companions R) {V : U .cls → U .cls → Prop}
    (parts : SameParts V)
    (members : ∀ k ≠ .cls, ∀ i, (r.transformer k i).InStep R (q.transformer k i))
    {cls other : U .cls} (classes : V cls other)
    (owner : ClassName.ofText (ClassShape.name other) = .ofText (ClassShape.name cls))
    (hr : ∀ i ∈ s.store.snapshot.sequence .cls (.ofClass (ClassShape.name cls)),
      (r.transformer .cls i).InStepUpTo R V (q.transformer .cls i))
    {load : LoadContext E} (h : R s t) (same : s.store = t.store) :
    MeetUpTo R (EndAlike V) (loadClass r cls load) (loadClass q other load) s t := by
  unfold TransformRegistry.loadClass
  refine meetUpTo_getStore h same ?_
  dsimp only
  rw [owner]
  split
  · exact inStepUpTo_pure (.ok classes)
  rw [← parts.fields classes]
  refine (hR.transformMembers (members .field nofun)).bindUpTo fun result => ?_
  cases result with
  | error e => exact inStepUpTo_pure (.error e)
  | ok fields =>
    have classes := parts.setFields classes fields
    dsimp only
    rw [← parts.methods classes]
    refine (hR.transformMembers (members .method nofun)).bindUpTo fun result => ?_
    cases result with
    | error e => exact inStepUpTo_pure (.error e)
    | ok methods =>
      have classes := parts.setMethods classes methods
      refine (hR.attempt_transformersUpTo classes hr).bind fun result found same => ?_
      cases same with
      | ok classes => exact (hR.report _).bindUpTo fun _ => inStepUpTo_pure (.ok classes)
      | error e => exact inStepUpTo_pure (.error e)

theorem loadClass [ClassShape U] (hR : Companions R) (hr : r.InStep R q) {cls : U .cls}
    {load : LoadContext E} (h : R s t) (same : s.store = t.store) :
    Meet R (loadClass r cls load) (loadClass q cls load) s t := by
  rw [meet_iff, ← endAlike_eq]
  exact hR.loadClassUpTo sameParts_eq (fun k _ i => hr k i) rfl rfl
    (fun i _ => Transformer.inStep_iff.1 (hr .cls i)) h same

/-- Applications of transformers that are in step end alike, in sessions that belong together. -/
theorem run [ClassShape U] (hR : Companions R) (hr : r.InStep R q) (a : Application E U α)
    (h : R s t) (same : s.store = t.store) : Meet R (a.run r) (a.run q) s t := by
  cases a with
  | unit k u target load => exact hR.transformUnit hr h same
  | any u target load =>
    refine InStep.meet_bind (hR.transformUnit hr h same) fun result => ?_
    cases result <;> exact inStep_pure _
  | cls c load => exact hR.loadClass hr h same

theorem alsoInNotesUpTo {N M : Type} {S : N → M → Prop} (hR : Companions R) :
    Companions (AlsoInNotesUpTo R S) where
  report e := by
    rintro s t ⟨bare, notes⟩
    obtain ⟨-, left⟩ := hR.report e _ _ bare
    exact ⟨rfl, left, notes⟩
  record trail? target history := by
    rintro s t ⟨bare, notes⟩
    obtain ⟨-, left⟩ := hR.record trail? target history _ _ bare
    cases trail? <;> exact ⟨rfl, left, notes⟩

theorem alsoInNotes {N : Type} (hR : Companions R) : Companions (AlsoInNotes (N := N) R) := by
  rw [alsoInNotes_eq]
  exact hR.alsoInNotesUpTo

/-- Applications of transformers that are in step make the same calls. -/
theorem noted [ClassShape U] (hR : Companions R) (hr : r.InStep R q) (a : Application E U α)
    (h : R s t) (same : s.store = t.store) :
    (a.run r.writing).noted s = (a.run q.writing).noted t := by
  obtain ⟨-, -, notes⟩ := hR.alsoInNotes.run hr.writing a (s := s.withNotes [])
    (t := t.withNotes []) ⟨h, rfl⟩ same
  exact notes.symm

end Companions

end TransformRegistry
