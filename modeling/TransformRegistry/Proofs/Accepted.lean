import Mathlib.Data.List.Induction
import Mathlib.Data.List.Nodup
import TransformRegistry.Proofs.Growth
import TransformRegistry.Proofs.PlainUnits

/-!
# A store holds what it has accepted

The accepted registrations, in order, say everything about a store: which instances stand under a
target, and in which order the targets of a kind came. A refused registration is not among them.
-/

namespace TransformRegistry

variable {I H E : Type} {U : Kind → Type} [DecidableEq I]

/-! ## What the accepted registrations say -/

/-- The instances of the registrations that are of the kind of the target and declare it. -/
def declarers (log : List (Declaration I)) (t : Target) : List I :=
  (log.filter fun d => d.1.kind = t.kind ∧ t ∈ d.2).map (·.1.id)

def declaredTargets (log : List (Declaration I)) (k : Kind) : List Target :=
  (log.filter (·.1.kind = k)).flatMap (·.2)

/-- The snapshot holds what the registrations say, each instance and each target where it came
first. -/
structure Snapshot.Holds (s : Snapshot I) (log : List (Declaration I)) : Prop where
  sequence : ∀ t, (s.indexOf t.kind).sequence t = (declarers log t).eraseDups
  targets : ∀ k, (s.indexOf k).targets = (declaredTargets log k).eraseDups

/-! ## Lists without repeats -/

section Repeats

variable {α : Type} [DecidableEq α]

theorem eraseDups_append_singleton (l : List α) (a : α) :
    (l ++ [a]).eraseDups = if a ∈ l then l.eraseDups else l.eraseDups ++ [a] := by
  rw [List.eraseDups_append]
  split
  · next old => simp [List.removeAll, old]
  · next new => simp [List.removeAll, new, List.eraseDups_cons]

theorem eraseDups_append_eraseDups (l m : List α) :
    (l ++ m.eraseDups).eraseDups = (l ++ m).eraseDups := by
  induction m using List.reverseRecOn with
  | nil => rfl
  | append_singleton m a ih =>
    rw [← List.append_assoc, eraseDups_append_singleton (l ++ m), eraseDups_append_singleton m]
    by_cases old : a ∈ m
    · rw [if_pos old, if_pos (List.mem_append_right l old), ih]
    · rw [if_neg old, ← List.append_assoc, eraseDups_append_singleton, ih]
      simp only [List.mem_append, List.mem_eraseDups]

theorem find?_eraseDups (p : α → Bool) (l : List α) :
    l.eraseDups.find? p = l.find? p := by
  induction l using List.reverseRecOn with
  | nil => rfl
  | append_singleton l a ih =>
    rw [eraseDups_append_singleton, List.find?_append]
    split
    · next old =>
      rw [ih]
      cases found : l.find? p with
      | some b => rfl
      | none => simp [List.find?_eq_none.1 found a old]
    · rw [List.find?_append, ih]

theorem isEmpty_eraseDups (l : List α) :
    l.eraseDups.isEmpty = l.isEmpty := by
  cases l with
  | nil => rfl
  | cons a rest => rw [List.eraseDups_cons]; rfl

theorem nodup_eraseDups (l : List α) : l.eraseDups.Nodup := by
  induction l using List.reverseRecOn with
  | nil => exact List.nodup_nil
  | append_singleton l a ih =>
    rw [eraseDups_append_singleton]
    split
    · exact ih
    · next new =>
      rw [← List.concat_eq_append]
      exact ih.concat (mt List.mem_eraseDups.1 new)

theorem eraseDups_of_nodup {l : List α} (once : l.Nodup) : l.eraseDups = l := by
  induction l using List.reverseRecOn with
  | nil => rfl
  | append_singleton l a ih =>
    rw [← List.concat_eq_append, List.nodup_concat] at once
    rw [eraseDups_append_singleton, if_neg once.1, ih once.2]

end Repeats

/-! ## One declaration more -/

namespace Snapshot

theorem indexOf_putAll_of_ne (s : Snapshot I) (h : Handle I) (ts : List Target) {k : Kind}
    (other : k ≠ h.kind) : (s.putAll h ts).indexOf k = s.indexOf k := by
  induction ts generalizing s with
  | nil => rfl
  | cons t rest ih =>
    rw [putAll_cons, ih, indexOf_put, if_neg other]

theorem targets_putAll (s : Snapshot I) (h : Handle I) (ts : List Target) {before : List Target}
    (hb : (s.indexOf h.kind).targets = before.eraseDups) :
    ((s.putAll h ts).indexOf h.kind).targets = (before ++ ts).eraseDups := by
  induction ts generalizing s before with
  | nil => rw [List.append_nil]; exact hb
  | cons t rest ih =>
    have one : ((put h s t).indexOf h.kind).targets = (before ++ [t]).eraseDups := by
      rw [indexOf_put, if_pos rfl, TargetIndex.targets_put, hb, eraseDups_append_singleton]
      simp only [List.mem_eraseDups]
    rw [putAll_cons, ih (put h s t) one, List.append_assoc]
    rfl

theorem sequence_putAll (s : Snapshot I) (h : Handle I) (ts : List Target) {t : Target}
    {before : List I} (hb : (s.indexOf h.kind).sequence t = before.eraseDups) :
    ((s.putAll h ts).indexOf h.kind).sequence t =
      if t ∈ ts then (before ++ [h.id]).eraseDups else before.eraseDups := by
  induction ts generalizing s before with
  | nil => exact hb
  | cons u rest ih =>
    rw [putAll_cons]
    by_cases here : t = u
    · subst here
      have one : ((put h s t).indexOf h.kind).sequence t = (before ++ [h.id]).eraseDups := by
        rw [indexOf_put, if_pos rfl, TargetIndex.sequence_put_self, hb, eraseDups_append_singleton]
        simp only [List.mem_eraseDups]
      -- The instance stands there now, and is not put there again.
      have again : ((before ++ [h.id]) ++ [h.id]).eraseDups = (before ++ [h.id]).eraseDups := by
        rw [eraseDups_append_singleton, if_pos (by simp)]
      rw [ih (put h s t) one, again, ite_self, if_pos List.mem_cons_self]
    · have one : ((put h s u).indexOf h.kind).sequence t = before.eraseDups := by
        rw [indexOf_put, if_pos rfl, TargetIndex.sequence_put_of_ne _ _ here, hb]
      rw [ih (put h s u) one]
      simp only [List.mem_cons, here, false_or]

end Snapshot

/-! ## One registration more -/

namespace Snapshot.Holds

variable {s : Snapshot I} {log : List (Declaration I)}

theorem empty : (Snapshot.empty : Snapshot I).Holds [] := by
  constructor <;> intro k <;> cases k <;> rfl

theorem close (hs : s.Holds log) : s.close.Holds log := ⟨hs.sequence, hs.targets⟩

theorem putAll (hs : s.Holds log) (h : Handle I) (ts : List Target) :
    (s.putAll h ts.eraseDups).Holds (log ++ [(h, ts)]) where
  sequence t := by
    by_cases kind : t.kind = h.kind
    · have before := hs.sequence t
      rw [kind] at before ⊢
      rw [sequence_putAll s h ts.eraseDups before]
      by_cases declares : t ∈ ts <;> simp [declarers, kind, declares]
    · rw [indexOf_putAll_of_ne s h _ kind, hs.sequence]
      simp [declarers, Ne.symm kind]
  targets k := by
    by_cases kind : k = h.kind
    · subst kind
      rw [targets_putAll s h ts.eraseDups (hs.targets h.kind), eraseDups_append_eraseDups]
      simp [declaredTargets]
    · rw [indexOf_putAll_of_ne s h _ kind, hs.targets]
      simp [declaredTargets, Ne.symm kind]

end Snapshot.Holds

theorem Store.Grows.holds {s t : Store I} {log more : List (Declaration I)}
    (grows : s.Grows more t) (hs : s.snapshot.Holds log) : t.snapshot.Holds (log ++ more) := by
  induction grows generalizing log with
  | refl => rwa [List.append_nil]
  | accept ha _ ih =>
    obtain ⟨-, -, rfl⟩ := accept_eq_ok ha
    have next := ih (hs.putAll _ _)
    rwa [List.append_assoc] at next
  | close _ ih =>
    refine ih ?_
    rw [snapshot_close]
    exact hs.close

/-! ## Calls to register -/

open SessionM

/-- All that is asked of a transformer when it is registered for declared targets. -/
def consult (r : Roster I H E U) (h : Handle I) (declared : List Target) :
    SessionM I H (Except RegistrationError (List (Target × Placement) × Store I)) := do
  let label ← r.label h
  deliberate r h label declared rounds

/-- All that is asked of a transformer when it is registered: for its targets, unless the store is
sealed, and for its label. -/
def introduce (r : Roster I H E U) (h : Handle I) : SessionM I H (Option (List Target)) := do
  if (← getStore).isSealed then
    let _ ← r.label h
    return none
  let targets ← r.targets h
  let _ ← consult r h targets
  return some targets

/-- A registration, if the answer to it says that it was accepted. -/
def confirmed {α : Type} (d : Declaration I) :
    EStateM.Result Crash (Session I H) (Except RegistrationError α) → List (Declaration I)
  | .ok (.ok _) _ => [d]
  | _ => []

/-- The registration that a call to register comes to, if it is accepted. -/
def accepted (r : Roster I H E U) (h : Handle I) (s : Session I H) : List (Declaration I) :=
  match introduce r h s with
  | .ok (some targets) _ => confirmed (h, targets) (register r h s)
  | _ => []

theorem registerFor_grows (r : Roster I H E U) (h : Handle I) (targets : List Target)
    (s : Session I H) :
    ((consult r h targets).after s).store.Grows (confirmed (h, targets) (registerFor r h targets s))
      ((registerFor r h targets).after s).store := by
  unfold after registerFor consult
  rw [bind_apply, bind_apply]
  cases r.label h s with
  | error c t => exact .refl _
  | ok label t =>
    simp only [takeIn_eq_deliberate, bind_apply]
    cases decided : deliberate r h label targets rounds t with
    | error c u => exact .refl _
    | ok result u =>
      cases result with
      | error e => exact .refl _
      | ok result => exact .accept (accept_of_deliberate decided) (.refl _)

/-- A registration for declared targets crashes where one of its questions does. -/
theorem registerFor_eq_error_iff {r : Roster I H E U} {h : Handle I} {targets : List Target}
    {s t : Session I H} {c : Crash} :
    registerFor r h targets s = .error c t ↔ consult r h targets s = .error c t := by
  unfold registerFor consult
  rw [bind_apply, bind_apply]
  cases r.label h s with
  | error c' u => simp
  | ok label u =>
    simp only [takeIn_eq_deliberate, bind_apply]
    cases deliberate r h label targets rounds u with
    | error c' v => simp
    | ok result v => cases result <;> simp [conclude]

theorem register_eq_error_iff {r : Roster I H E U} {h : Handle I} {s t : Session I H} {c : Crash} :
    register r h s = .error c t ↔ introduce r h s = .error c t := by
  unfold register introduce
  rw [bind_apply, bind_apply, getStore_apply]
  dsimp only
  split
  · simp only [bind_apply]
    cases r.label h s <;> simp
  · simp only [bind_apply]
    cases r.targets h s with
    | error c' u => simp
    | ok targets u =>
      dsimp only
      rw [registerFor_eq_error_iff]
      cases consult r h targets u <;> simp

theorem register_of_sealed {r : Roster I H E U} {s : Session I H} (closed : s.store.isSealed = true)
    (h : Handle I) :
    register r h s = ((fun label => .error ⟨label, .storeSealed⟩) <$> r.label h) s := by
  simp only [register, bind_apply, getStore_apply, closed, if_true, map_apply]
  cases r.label h s <;> rfl

theorem register_of_unsealed {r : Roster I H E U} {h : Handle I} {s t : Session I H}
    (unsealed : s.store.isSealed = false) {declared : List Target}
    (targeted : r.targets h s = .ok declared t) :
    register r h s = registerFor r h declared t := by
  simp only [register, bind_apply, getStore_apply, unsealed, Bool.false_eq_true, if_false, targeted]

/-- Where labels are given and leave the store alone, there is one round. -/
theorem register_ends {r : Roster I H E U} {h : Handle I}
    (targets : (r.targets h).Ends) (labels : (r.label h).Ends)
    (kept : (r.label h).Obeys unchanged) : (register r h).Ends := by
  unfold register
  refine ends_heritable.bind ends_heritable.getStore fun store => ?_
  split
  · exact ends_heritable.bind labels fun _ => ends_heritable.pure _
  · refine ends_heritable.bind targets fun declared s => ?_
    have settled := registerFor_settled kept.calm (s := s) trivial declared
    cases ran : registerFor r h declared s with
    | ok result t => exact ⟨result, answer_of_ok ran⟩
    | error c t =>
      rw [ran] at settled
      cases settled with
      | crashed broke => exact absurd broke (labels.ne_error _ _ _)

theorem register_grows (r : Roster I H E U) (h : Handle I) (s : Session I H) :
    ((introduce r h).after s).store.Grows (accepted r h s) ((register r h).after s).store := by
  cases asked : introduce r h s with
  | error c t =>
    rw [after_of_error asked, after_of_error (register_eq_error_iff.2 asked), accepted, asked]
    exact .refl _
  | ok introduced t =>
    rw [accepted, asked, after_of_ok asked]
    unfold introduce at asked
    obtain ⟨_, _, ⟨⟩, asked⟩ := bind_eq_ok asked
    by_cases closed : s.store.isSealed
    · rw [if_pos closed] at asked
      obtain ⟨label, u, labelled, asked⟩ := bind_eq_ok asked
      cases asked
      have refused := register_of_sealed closed (r := r) h
      rw [map_apply, labelled] at refused
      rw [after_of_ok refused]
      exact .refl _
    · rw [if_neg closed] at asked
      obtain ⟨targets, u, targeted, asked⟩ := bind_eq_ok asked
      obtain ⟨result, v, consulted, asked⟩ := bind_eq_ok asked
      cases asked
      have same := register_of_unsealed (Bool.eq_false_iff.2 closed) targeted
      have grows := registerFor_grows r h targets u
      rw [after_of_ok consulted] at grows
      rw [after_congr same, same]
      exact grows

theorem Heritable.consult {K : {α : Type} → SessionM I H α → Prop} (hK : Heritable K)
    (crashes : CrashesWith K) {r : Roster I H E U} {h : Handle I} (hl : K (r.label h))
    {targets : List Target} : K (consult r h targets) := by
  refine hK.bind hl fun label => ?_
  induction rounds with
  | zero => exact crashes _
  | succ n ih =>
    unfold deliberate
    refine hK.bind hK.getStore fun store => ?_
    cases store.accept h targets with
    | error refusal =>
      cases refusal with
      | alreadyRegistered t => exact hK.bind hl fun _ => hK.pure _
      | _ => exact hK.pure _
    | ok result =>
      refine hK.bind (hK.reportRepeats hl) fun _ => ?_
      refine hK.bind hK.getStore fun later => ?_
      split
      · exact hK.pure _
      · exact ih

theorem Heritable.introduce {K : {α : Type} → SessionM I H α → Prop} (hK : Heritable K)
    (crashes : CrashesWith K) {r : Roster I H E U} (hr : r.DeclaresWith K) {h : Handle I} :
    K (introduce r h) := by
  unfold TransformRegistry.introduce
  refine hK.bind hK.getStore fun store => ?_
  split
  · exact hK.bind (hr.label h) fun _ => hK.pure _
  · refine hK.bind (hr.targets h) fun _ => ?_
    exact hK.bind (hK.consult crashes (hr.label h)) fun _ => hK.pure _

theorem introduce_obeys {rule : StoreRule I} {r : Roster I H E U} (hr : r.DeclaresUnder rule)
    (h : Handle I) : (introduce r h).Obeys rule :=
  obeys_heritable.introduce obeys_crashes hr.heritable

/-! ## Runs of registrations -/

/-- Registrations lead from one session to another, and these are the ones that were accepted.
Whoever is asked for targets or a label may register others meanwhile; those come first. -/
inductive Registers : Session I H → List (Declaration I) → Session I H → Prop
  | idle {s t : Session I H} : t.store = s.store → Registers s [] t
  | close (s : Session I H) : Registers s [] (sealStore.after s)
  | register {E : Type} {U : Kind → Type} (r : Roster I H E U) (h : Handle I) {s : Session I H}
      {meanwhile : List (Declaration I)} : Registers s meanwhile ((introduce r h).after s) →
      Registers s (meanwhile ++ accepted r h s) ((register r h).after s)
  | registerFor {E : Type} {U : Kind → Type} (r : Roster I H E U) (h : Handle I)
      (targets : List Target) {s : Session I H} {meanwhile : List (Declaration I)} :
      Registers s meanwhile ((consult r h targets).after s) →
      Registers s (meanwhile ++ confirmed (h, targets) (registerFor r h targets s))
        ((registerFor r h targets).after s)
  | trans {s t u : Session I H} {log more : List (Declaration I)} :
      Registers s log t → Registers t more u → Registers s (log ++ more) u

theorem registers_alone {r : Roster I H E U} (hr : r.DeclaresUnder unchanged) (h : Handle I)
    (s : Session I H) : Registers s (accepted r h s) ((register r h).after s) :=
  .register r h (.idle (introduce_obeys hr h s))

theorem sealStore_grows (s : Session I H) : s.store.Grows [] (sealStore.after s).store := by
  unfold sealStore after
  by_cases closed : s.store.isSealed
  · simp [closed, Store.Grows.refl]
  · simp [closed, Store.Grows.close (Store.Grows.refl _)]

theorem Registers.grows {s t : Session I H} {log : List (Declaration I)}
    (run : Registers s log t) : s.store.Grows log t.store := by
  induction run with
  | idle kept => rw [kept]; exact .refl _
  | close s => exact sealStore_grows s
  | register r h _ ih => exact ih.trans (register_grows r h _)
  | registerFor r h targets _ ih => exact ih.trans (registerFor_grows r h targets _)
  | trans _ _ first next => exact first.trans next

/-- After registrations in a store that began empty, the accepted ones say who stands under each
target, and in which order the targets of a kind are kept. -/
theorem registers_contents {s t : Session I H} {log : List (Declaration I)}
    (run : Registers s log t) (settings : Settings) (start : s.store = .empty settings) :
    (∀ target, t.store.snapshot.handlesFor target =
      (declarers log target).eraseDups.map (Handle.mk target.kind)) ∧
    ∀ k, (t.store.snapshot.indexOf k).targets = (declaredTargets log k).eraseDups := by
  have grows := run.grows
  rw [start] at grows
  have holds := grows.holds Snapshot.Holds.empty
  refine ⟨fun target => ?_, holds.targets⟩
  rw [Snapshot.handlesFor, Snapshot.sequence_eq, holds.sequence, List.nil_append]

def twoClasses : Roster Nat Unit Unit PlainUnit :=
  .marking fun _ => return [.ofClass "A", .ofClass "B"]

/-- Everyone declares one class, twice, and registers another transformer before that. -/
def introducing : Roster Nat Unit Unit PlainUnit :=
  .marking fun _ => do
    let _ ← register twoClasses ⟨.cls, 2⟩
    return [.ofClass "B", .ofClass "B"]

/-- A registration within a registration, a repeat that is ignored, and a refusal. -/
theorem registers_contents_nested :
    let s₀ : Session Nat Unit := { store := .empty { repeats := .ignore }, host := () }
    let s₁ := (register introducing ⟨.cls, 1⟩).after s₀
    let s₂ := (register twoClasses ⟨.cls, 1⟩).after s₁
    let s₃ := (register twoClasses ⟨.field, 3⟩).after s₂
    s₃.store.snapshot.handlesFor (.ofClass "B") = [⟨.cls, 2⟩, ⟨.cls, 1⟩] ∧
      (s₃.store.snapshot.indexOf .cls).targets = [.ofClass "A", .ofClass "B"] := by
  intro s₀ s₁ s₂ s₃
  have plain : twoClasses.DeclaresUnder unchanged :=
    (Roster.marking_under fun _ => obeys_pure _).declares
  have inner : Registers s₀ _ ((introduce introducing ⟨.cls, 1⟩).after s₀) :=
    .trans (registers_alone plain ⟨.cls, 2⟩ s₀) (.idle (by decide +kernel))
  have first : Registers s₀ _ s₁ := .register introducing ⟨.cls, 1⟩ inner
  have again : Registers s₁ _ s₂ := registers_alone plain ⟨.cls, 1⟩ s₁
  have refused : Registers s₂ _ s₃ := registers_alone plain ⟨.field, 3⟩ s₂
  have contents := registers_contents (first.trans (again.trans refused)) _ rfl
  rw [contents.1, contents.2]
  decide +kernel

end TransformRegistry
