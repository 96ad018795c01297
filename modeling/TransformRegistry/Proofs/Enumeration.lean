import TransformRegistry.Proofs.Effects
import TransformRegistry.Gathering.Gather

/-!
# What a service enumerates

Before anything of a service is registered, its transformers have given their labels and declared
their targets, one after another, each in the session that the one before left behind.
-/

namespace TransformRegistry

variable {I H E : Type} {U : Kind → Type} {r : Roster I H E U}

open SessionM

/-- The transformers give their labels and declare their targets, and this leads from one session
to another. -/
inductive Declares (r : Roster I H E U) :
    Session I H → List (Handle I) → List (Declaration I) → Session I H → Prop
  | nil (s : Session I H) : Declares r s [] [] s
  | cons {s t u v : Session I H} {h : Handle I} {label : String} {targets : List Target}
      {handles : List (Handle I)} {declared : List (Declaration I)} :
      r.label h s = .ok label t → r.targets h t = .ok targets u → Declares r u handles declared v →
      Declares r s (h :: handles) ((h, targets) :: declared) v

/-- The service offers transformers, and these declare their targets. -/
def Service.Enumerates (r : Roster I H E U) (x : Service I H) (s : Session I H)
    (declared : List (Declaration I)) (t : Session I H) : Prop :=
  ∃ handles u, x.transformers s = .ok (.ok handles) u ∧ Declares r u handles declared t

theorem Declares.declare_eq {s t : Session I H} {handles : List (Handle I)}
    {declared : List (Declaration I)} (hd : Declares r s handles declared t) :
    declare r handles s = .ok declared t := by
  induction hd with
  | nil s => rfl
  | cons labelled targeted _ ih =>
    simp only [declare, bind_apply, discard_apply, labelled, targeted, ih, pure_apply]

theorem Declares.allows {rule : StoreRule I} {s t : Session I H} {handles : List (Handle I)}
    {declared : List (Declaration I)} (hd : Declares r s handles declared t)
    (hr : ∀ d ∈ declared, (r.label d.1).Obeys rule ∧ (r.targets d.1).Obeys rule) :
    rule.allows s.store t.store := by
  induction hd with
  | nil s => exact rule.refl _
  | @cons s t u v h label targets _ _ labelled targeted _ ih =>
    obtain ⟨hl, ht⟩ := hr _ List.mem_cons_self
    have first := hl s
    have next := ht t
    rw [after_of_ok labelled] at first
    rw [after_of_ok targeted] at next
    have rest := ih fun d hd => hr d (List.mem_cons_of_mem _ hd)
    exact rule.trans first (rule.trans next rest)

section Gathering

variable [DecidableEq I] {x : Service I H} {s t u : Session I H}

theorem Service.gather_of_registered {declared : List (Declaration I)}
    (contributed : x.contribution r s = .ok (.ok declared) t)
    (ran : registerAll r declared t = .ok (.ok ()) u) :
    x.gather r s = .ok (.ok declared.length)
      { u with events := u.events ++ [.serviceGathered x.name declared.length] } := by
  simp only [Service.gather, bind_apply, contributed, ran, report_apply, pure_apply]

theorem Service.gather_of_refused {declared : List (Declaration I)}
    (contributed : x.contribution r s = .ok (.ok declared) t) {e : RegistrationError}
    (ran : registerAll r declared t = .ok (.error e) u) :
    x.gather r s = .ok (.error (.refused x.name e)) u := by
  simp only [Service.gather, bind_apply, contributed, ran, pure_apply]

theorem Service.gather_of_unavailable {e : ServiceError}
    (contributed : x.contribution r s = .ok (.error e) t) :
    x.gather r s = .ok (.error (.unavailable e)) t := by
  simp only [Service.gather, bind_apply, contributed, pure_apply]

theorem gatherEach_of_unavailable {e : ServiceError}
    (ran : x.gather r s = .ok (.error (.unavailable e)) t) (g : Harvest)
    (rest : List (Service I H)) :
    gatherEach r g (x :: rest) s = gatherEach r { g with failures := g.failures ++ [e] } rest
      { t with events := t.events ++ [.serviceSkipped e.service e.message] } := by
  simp only [gatherEach, bind_apply, ran, report_apply]

end Gathering

namespace Service.Enumerates

variable {x : Service I H} {s t : Session I H} {declared : List (Declaration I)}

theorem contribution_eq (hx : x.Enumerates r s declared t) :
    x.contribution r s = .ok (.ok declared) t := by
  obtain ⟨handles, u, offered, hd⟩ := hx
  have asked : x.declarations r s = .ok (.ok declared) t := by
    simp only [Service.declarations, bind_apply, offered, hd.declare_eq, pure_apply]
  simp only [Service.contribution, bind_apply, isolate_of_ok asked, pure_apply]

theorem allows {rule : StoreRule I} (hx : x.Enumerates r s declared t)
    (hs : x.EnumeratesUnder rule)
    (hr : ∀ d ∈ declared, (r.label d.1).Obeys rule ∧ (r.targets d.1).Obeys rule) :
    rule.allows s.store t.store := by
  obtain ⟨handles, u, offered, hd⟩ := hx
  have first := hs s
  rw [after_of_ok offered] at first
  exact rule.trans first (hd.allows hr)

end Service.Enumerates

end TransformRegistry
