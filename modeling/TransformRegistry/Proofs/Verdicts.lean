import TransformRegistry.Proofs.Consistency
import TransformRegistry.Proofs.Sealing

/-!
# How a registration ends

Whether a declaration is taken in can be told from the store before anything is done: the first
objection counts, in a fixed order. The snapshot that is worked on may be half changed when an
objection comes up, but the store never has it.
-/

namespace TransformRegistry

variable {I H E : Type} {U : Kind → Type} [DecidableEq I]

open SessionM

/-! ## The verdict -/

namespace Snapshot

/-- Whether the instance already stands under the target, in the index of its kind. -/
def Has (s : Snapshot I) (h : Handle I) (t : Target) : Prop := h.id ∈ s.sequence h.kind t

instance (s : Snapshot I) (h : Handle I) (t : Target) : Decidable (s.Has h t) :=
  inferInstanceAs (Decidable (_ ∈ _))

def placement (s : Snapshot I) (h : Handle I) (t : Target) : Placement :=
  if s.Has h t then .alreadyThere else .appended

/-- The policy does not let the instance be registered for the target again. -/
def Rejects (s : Snapshot I) (policy : RepeatPolicy) (h : Handle I) (t : Target) : Prop :=
  policy = .reject ∧ s.Has h t

instance (s : Snapshot I) (policy : RepeatPolicy) (h : Handle I) (t : Target) :
    Decidable (s.Rejects policy h t) :=
  inferInstanceAs (Decidable (_ ∧ _))

/-- What a store that is not sealed answers to a declaration. -/
def verdict (s : Snapshot I) (policy : RepeatPolicy) (h : Handle I) (declared : List Target) :
    Except Refusal (List Placement) :=
  if declared.isEmpty then .error .nothingDeclared
  else match declared.find? (·.kind != h.kind) with
    | some t => .error (.wrongKind h.kind t)
    | none =>
      match declared.find? fun t => s.Rejects policy h t with
      | some t => .error (.alreadyRegistered t)
      | none => .ok (declared.eraseDups.map (s.placement h))

end Snapshot

/-- The instance has been put at the end of the sequence of each declared target that lacked it. No
other sequence has changed. -/
structure Store.Takes (s : Store I) (h : Handle I) (declared : List Target) (t : Store I) :
    Prop where
  settings : t.settings = s.settings
  isSealed : t.isSealed = s.isSealed
  sequence : ∀ k target, t.snapshot.sequence k target =
    if k = h.kind ∧ target ∈ declared ∧ ¬s.snapshot.Has h target
    then s.snapshot.sequence k target ++ [h.id] else s.snapshot.sequence k target

/-! ## Target by target -/

namespace Snapshot

variable {s : Snapshot I} {h : Handle I} {t : Target} {policy : RepeatPolicy}

theorem length_of_verdict {declared : List Target} {placements : List Placement}
    (accepted : s.verdict policy h declared = .ok placements) :
    placements.length = declared.eraseDups.length := by
  unfold verdict at accepted
  split at accepted
  · cases accepted
  · split at accepted
    · cases accepted
    · split at accepted
      · cases accepted
      · cases accepted
        exact List.length_map ..

theorem has_put_of_ne {u : Target} (other : u ≠ t) : (put h s t).Has h u ↔ s.Has h u := by
  unfold Has
  rw [sequence_eq, sequence_eq, indexOf_put, if_pos rfl, TargetIndex.sequence_put_of_ne _ _ other]

theorem index_insert (hs : (s.indexOf h.kind).kind = h.kind) (ht : t.kind = h.kind) :
    (s.indexOf h.kind).insert policy t h.id =
      if s.Rejects policy h t then .error (.alreadyRegistered t)
      else .ok (s.placement h t, (s.indexOf h.kind).put t h.id) := by
  have known : s.Has h t ↔ h.id ∈ (s.indexOf h.kind).sequence t := by rw [Has, sequence_eq]
  have ofKind : ¬t.kind ≠ (s.indexOf h.kind).kind := not_not.2 (ht.trans hs.symm)
  unfold TargetIndex.insert TargetIndex.put placement Rejects
  rw [if_neg ofKind]
  by_cases has : s.Has h t
  · cases policy <;> simp [has, known.1 has]
  · simp [has, mt known.2 has]

/-- Targets that differ do not get in the way of one another. -/
theorem insert_eq {ts : List Target} (hs : (s.indexOf h.kind).kind = h.kind)
    (ofKind : ∀ t ∈ ts, t.kind = h.kind) (once : ts.Nodup) :
    s.insert policy h ts = match ts.find? fun t => s.Rejects policy h t with
      | some t => .error (.alreadyRegistered t)
      | none => .ok (ts.map (s.placement h), s.putAll h ts) := by
  induction ts generalizing s with
  | nil => rfl
  | cons t rest ih =>
    rw [List.forall_mem_cons] at ofKind
    obtain ⟨fresh, once⟩ := List.nodup_cons.1 once
    unfold insert insertOne
    rw [index_insert hs ofKind.1, List.find?_cons]
    by_cases rejected : s.Rejects policy h t
    · rw [if_pos rejected, decide_eq_true rejected]
    · have apart : ∀ u ∈ rest, (put h s t).Has h u ↔ s.Has h u := fun u hu =>
        has_put_of_ne (ne_of_mem_of_not_mem hu fresh)
      have sameFirst : (rest.find? fun u => (put h s t).Rejects policy h u) =
          rest.find? fun u => s.Rejects policy h u := by
        rw [← List.head?_filter, ← List.head?_filter, List.filter_congr fun u hu => ?_]
        exact decide_eq_decide.2 (and_congr_right fun _ => apart u hu)
      have samePlaces : rest.map ((put h s t).placement h) = rest.map (s.placement h) :=
        List.map_congr_left fun u hu => by simp only [placement, apart u hu]
      have kind : ((put h s t).indexOf h.kind).kind = h.kind := by
        rw [indexOf_put, if_pos rfl, TargetIndex.kind_put, hs]
      have later := ih kind ofKind.2 once
      rw [sameFirst, samePlaces] at later
      rw [if_neg rejected, decide_eq_false rejected]
      dsimp only
      rw [← put, later]
      cases rest.find? fun u => s.Rejects policy h u <;> rfl

end Snapshot

/-! ## A whole declaration -/

namespace Store

variable {s : Store I}

theorem accept_eq_verdict (unsealed : s.isSealed = false) (hs : s.snapshot.Consistent)
    (h : Handle I) (declared : List Target) :
    s.accept h declared = match s.snapshot.verdict s.settings.repeats h declared with
      | .error refusal => .error refusal
      | .ok placements => .ok (declared.eraseDups.zip placements,
          s.publish (s.snapshot.putAll h declared.eraseDups)) := by
  unfold accept Snapshot.verdict
  simp only [isEmpty_eraseDups, find?_eraseDups, unsealed]
  split
  · rfl
  · cases wrong : declared.find? (·.kind != h.kind) with
    | some t => rfl
    | none =>
      have ofKind : ∀ t ∈ declared.eraseDups, t.kind = h.kind := fun t ht => by
        simpa using List.find?_eq_none.1 wrong t (List.mem_eraseDups.1 ht)
      have kind := (hs.indexOf_sound h.kind).2
      have inserted : s.snapshot.insert s.settings.repeats h declared.eraseDups = _ :=
        Snapshot.insert_eq kind ofKind (nodup_eraseDups declared)
      rw [find?_eraseDups] at inserted
      simp only [inserted]
      cases declared.find? fun t => s.snapshot.Rejects s.settings.repeats h t <;> rfl

theorem takes_putAll (hs : s.snapshot.Consistent) (h : Handle I) (declared : List Target) :
    s.Takes h declared (s.publish (s.snapshot.putAll h declared.eraseDups)) where
  settings := rfl
  isSealed := Snapshot.isSealed_putAll ..
  sequence k target := by
    have once := (hs.indexOf_sound k).1.once target
    rw [snapshot_publish, Snapshot.sequence_eq, Snapshot.sequence_eq]
    by_cases same : k = h.kind
    · subst same
      have known : s.snapshot.Has h target ↔
          h.id ∈ (s.snapshot.indexOf h.kind).sequence target := by
        rw [Snapshot.Has, Snapshot.sequence_eq]
      rw [Snapshot.sequence_putAll _ _ _ (eraseDups_of_nodup once).symm,
        eraseDups_append_singleton, eraseDups_of_nodup once]
      by_cases declares : target ∈ declared <;>
        by_cases has : s.snapshot.Has h target <;> simp [declares, has, ← known]
    · rw [if_neg fun all => same all.1, Snapshot.indexOf_putAll_of_ne _ _ _ same]

end Store

/-! ## One call to register -/

section Calls

variable {r : Roster I H E U} {h : Handle I} {s t u : Session I H}

/-- While nobody else touches the store, its answer to a registration is the verdict, and only an
accepted one changes it. A sealed store does not even ask for targets. There is no answer only where
a label is missing, and then the store is as before too. -/
theorem register_verdict (r : Roster I H E U) (h : Handle I) (s : Session I H)
    (reachable : s.store.Reachable) (targets : (r.targets h).Obeys unchanged)
    (labels : (r.label h).Obeys unchanged) :
    (s.store.isSealed = true →
      register r h s = ((fun label => .error ⟨label, .storeSealed⟩) <$> r.label h) s ∧
        ((register r h).after s).store = s.store) ∧
    (s.store.isSealed = false → ∀ declared t, r.targets h s = .ok declared t →
      match s.store.snapshot.verdict s.store.settings.repeats h declared with
      | .error refusal =>
        (∃ u, u.store = s.store ∧
          register r h s = ((fun label => .error ⟨label, refusal⟩) <$> r.label h) u) ∧
        ((register r h).after s).store = s.store
      | .ok placements =>
        (∃ u, register r h s = .ok (.ok placements) u ∧ s.store.Takes h declared u.store) ∨
        ∃ c u v, register r h s = .error c v ∧ v.store = s.store ∧
          u.store = s.store ∧ r.label h u = .error c v) ∧
    ((r.targets h).Ends → (r.label h).Ends → (register r h).Ends) := by
  refine ⟨fun closed => ?_, fun unsealed declared t targeted => ?_, fun targeted labelled =>
    register_ends targeted labelled labels⟩
  · have refused := register_of_sealed (r := r) closed h
    refine ⟨refused, ?_⟩
    rw [after_congr refused, after_map]
    exact labels s
  · have kept := store_eq_of_ok targets targeted
    have answer := Store.accept_eq_verdict unsealed reachable.consistent h declared
    have settled := registerFor_settled labels.calm (s := t) trivial declared
    rw [← register_of_unsealed unsealed targeted, kept] at settled
    cases verdict : s.store.snapshot.verdict s.store.settings.repeats h declared with
    | error refusal =>
      rw [verdict] at answer
      obtain ⟨u, same, -, ended⟩ := settled.of_refused answer
      refine ⟨⟨u, same, ended⟩, ?_⟩
      rw [after_congr ended, after_map, labels u, same]
    | ok placements =>
      rw [verdict] at answer
      rcases settled.of_accepted answer with
        ⟨u, ended, taken, -⟩ | ⟨c, u, v, crashed, labelled, same, -⟩
      · rw [List.map_snd_zip (Nat.le_of_eq (Snapshot.length_of_verdict verdict))] at ended
        refine .inl ⟨u, ended, ?_⟩
        rw [taken]
        exact Store.takes_putAll reachable.consistent h declared
      · have left := labels u
        rw [after_of_error labelled] at left
        exact .inr ⟨c, u, v, crashed, left.trans same, same, labelled⟩

end Calls

/-- Every label is a number of its own, and all transformers declare two classes. -/
def numbering : Roster Nat Nat Unit PlainUnit where
  transformer k _ :=
    { label := modifyGet fun s => (toString s.host, { s with host := s.host + 1 })
      targets := return [.ofClass "A", .ofClass "B"]
      vote := fun _ => return .yes
      transform := fun unit _ => return .ok (PlainUnit.mark "" k unit) }

theorem numbering_declares (rule : StoreRule Nat) : numbering.DeclaresUnder rule where
  label _ := obeys_of_store_eq fun _ => rfl
  targets _ := obeys_pure _

/-- A new target comes before one that the instance has already. It is not taken in either, and the
error has the second of two labels. -/
theorem register_verdict_repeated :
    let s₀ : Session Nat Nat := { store := .empty, host := 0 }
    let s := (registerFor numbering ⟨.cls, 1⟩ [.ofClass "B"]).after s₀
    s.store.Reachable ∧ s.store.isSealed = false ∧
      s.store.snapshot.sequence .cls (.ofClass "B") = [1] ∧
      (register numbering ⟨.cls, 1⟩).answer s =
        .ok (.error ⟨"2", .alreadyRegistered (.ofClass "B")⟩) ∧
      ((register numbering ⟨.cls, 1⟩).after s).store = s.store := by
  intro s₀ s
  have grown : (registerFor numbering ⟨.cls, 1⟩ [.ofClass "B"]).Obeys growth :=
    obeys_heritable.registerFor growth_allowsChanges.heritable (numbering_declares _).heritable
  have reachable : s.store.Reachable := (Store.reachable_empty _).grow (grown s₀)
  have unsealed : s.store.isSealed = false := by decide +kernel
  have quiet := numbering_declares unchanged
  have ended := (register_verdict numbering ⟨.cls, 1⟩ s reachable (quiet.targets _)
    (quiet.label _)).2.1 unsealed _ s rfl
  have verdict : s.store.snapshot.verdict s.store.settings.repeats ⟨.cls, 1⟩
      [.ofClass "A", .ofClass "B"] = .error (.alreadyRegistered (.ofClass "B")) := by decide +kernel
  rw [verdict] at ended
  exact ⟨reachable, unsealed, by decide +kernel, by decide +kernel, ended.2⟩

end TransformRegistry
