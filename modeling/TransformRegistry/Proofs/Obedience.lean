import TransformRegistry.Proofs.Heritable
import TransformRegistry.Proofs.Registering

/-!
# Calls obey the rules of those they call

What the registry does to a store while transformers are applied is what the transformers do. What
it does besides, when it registers and gathers, is to take in what the store accepts, and to seal.
-/

namespace TransformRegistry

variable {I H E : Type} {rule : StoreRule I}

open SessionM

theorem obeys_heritable : Heritable (H := H) (Obeys rule) where
  pure := obeys_pure
  bind := obeys_bind
  isolate := obeys_isolate
  getStore := obeys_getStore
  report := obeys_report

theorem obeys_crashes : CrashesWith (H := H) (Obeys rule) := fun _ _ => rule.refl _

theorem obeys_records : RecordsWith (H := H) (Obeys rule) := fun _ _ _ => obeys_record

/-! ## Applying transformers -/

variable {U : Kind → Type} {r : Roster I H E U}

theorem Roster.AppliesUnder.heritable (hr : r.AppliesUnder rule) : r.AppliesWith (Obeys rule) :=
  fun k i => ⟨(hr k i).label, (hr k i).vote, (hr k i).transform⟩

theorem attempt_transformers_obeys (hr : r.AppliesUnder rule) {s : Snapshot I} {k : Kind}
    {t target : Target} {unit : U k} {load : LoadContext E} :
    (attempt (s.transformers r k t) unit target load).Obeys rule :=
  obeys_heritable.attempt_transformers obeys_records hr.heritable

theorem transformMembers_obeys (hr : r.AppliesUnder rule) {s : Snapshot I} {load : LoadContext E}
    {k : Kind} {targetOf : U k → Target} {members : List (U k)} :
    (transformMembers r s load k targetOf members).Obeys rule :=
  obeys_heritable.transformMembers obeys_records hr.heritable

/-! ## Registering and gathering -/

theorem Roster.DeclaresUnder.heritable (hr : r.DeclaresUnder rule) :
    r.DeclaresWith (Obeys rule) := ⟨hr.label, hr.targets⟩

variable [DecidableEq I]

/-- The rule allows a store to take in what it accepts, and to be sealed. -/
structure StoreRule.AllowsChanges (rule : StoreRule I) : Prop where
  accept : ∀ {s t : Store I} {h : Handle I} {declared done},
    s.accept h declared = .ok (done, t) → rule.allows s t
  close : ∀ s : Store I, rule.allows s s.close

theorem sealStore_obeys (changes : rule.AllowsChanges) :
    (sealStore : SessionM I H Unit).Obeys rule := by
  intro s
  unfold sealStore after
  by_cases h : s.store.isSealed
  · simp [h, rule.refl]
  · simp [h, changes.close]

theorem swap_obeys {seen next : Store I} (allowed : rule.allows seen next) :
    (swap seen next : SessionM I H Bool).Obeys rule := by
  intro s
  by_cases same : s.store = seen
  · rw [after_of_ok (swap_of_eq same next), same]
    exact allowed
  · rw [after_of_ok (swap_of_ne same next)]
    exact rule.refl _

theorem StoreRule.AllowsChanges.heritable (changes : rule.AllowsChanges) :
    ChangesWith (H := H) (Obeys rule) where
  swap accepted := swap_obeys (changes.accept accepted)
  close := sealStore_obeys changes
  crash := obeys_crashes

theorem register_obeys (changes : rule.AllowsChanges) (hr : r.DeclaresUnder rule)
    {h : Handle I} : (register r h).Obeys rule :=
  obeys_heritable.register changes.heritable hr.heritable

theorem gatherService_obeys (changes : rule.AllowsChanges) (hr : r.DeclaresUnder rule)
    {s : Service I H} (hs : s.EnumeratesUnder rule) : (s.gather r).Obeys rule :=
  obeys_heritable.gatherService changes.heritable hr.heritable hs

end TransformRegistry
