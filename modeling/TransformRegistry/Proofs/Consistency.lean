import Mathlib.Data.List.Nodup
import TransformRegistry.Proofs.Growth

/-!
# What a snapshot knows is consistent

A snapshot keeps the registered targets three times: in its indexes, as a set, and by their owners
as another set. However a store has grown, the three agree, and no target is kept without a
transformer.
-/

namespace TransformRegistry

variable {I : Type} [DecidableEq I]

/-! ## One index -/

/-- Targets are of the kind of the index and stand there once, each with at least one instance and
none twice. -/
structure TargetIndex.Sound (ix : TargetIndex I) : Prop where
  distinct : ix.targets.Nodup
  ofKind : ∀ t ∈ ix.targets, t.kind = ix.kind
  filled : ∀ t ∈ ix.targets, ix.sequence t ≠ []
  once : ∀ t, (ix.sequence t).Nodup

namespace TargetIndex

omit [DecidableEq I] in
theorem sound_empty (k : Kind) : (empty k : TargetIndex I).Sound where
  distinct := List.nodup_nil
  ofKind _ ht := nomatch ht
  filled _ ht := nomatch ht
  once _ := List.nodup_nil

omit [DecidableEq I] in
theorem Sound.sequence_eq_nil_iff {ix : TargetIndex I} (hs : ix.Sound) {t : Target} :
    ix.sequence t = [] ↔ t ∉ ix.targets := by
  constructor
  · intro none present
    exact hs.filled t present none
  · exact Keyed.get_of_not_mem_keys

theorem Sound.put {ix : TargetIndex I} (hs : ix.Sound) {t : Target} (ht : t.kind = ix.kind)
    (i : I) : (ix.put t i).Sound where
  distinct := by
    rw [targets_put]
    split
    · exact hs.distinct
    · next absent =>
      rw [← List.concat_eq_append]
      exact List.Nodup.concat absent hs.distinct
  ofKind := by
    intro u hu
    rw [kind_put]
    rcases mem_targets_put.1 hu with old | rfl
    · exact hs.ofKind u old
    · exact ht
  filled := by
    intro u hu
    by_cases same : u = t
    · rw [same, sequence_put_self]
      split
      · next present => exact List.ne_nil_of_mem present
      · simp
    · rw [sequence_put_of_ne _ _ same]
      exact hs.filled u ((mem_targets_put.1 hu).resolve_right same)
  once := by
    intro u
    by_cases same : u = t
    · rw [same, sequence_put_self]
      split
      · exact hs.once t
      · next absent =>
        rw [← List.concat_eq_append]
        exact List.Nodup.concat absent (hs.once t)
    · rw [sequence_put_of_ne _ _ same]
      exact hs.once u

end TargetIndex

/-! ## A whole snapshot -/

namespace Snapshot

structure Consistent (s : Snapshot I) : Prop where
  /-- The set of targets is the union of the targets of the indexes. -/
  targets : ∀ t, t ∈ s.targets ↔ ∃ k ix, s.indexes.get k = some ix ∧ t ∈ ix.targets
  /-- The set of owners is that of the owners of those targets. -/
  owners : ∀ o, o ∈ s.owners ↔ ∃ t ∈ s.targets, t.owner = o
  slashFree : ∀ o ∈ s.owners, '/' ∉ o.text.toList
  targetsOnce : s.targets.Nodup
  ownersOnce : s.owners.Nodup
  inUse : ∀ k ix, s.indexes.get k = some ix → ix.targets ≠ []
  ofKind : ∀ k ix, s.indexes.get k = some ix → ix.kind = k
  sound : ∀ k ix, s.indexes.get k = some ix → ix.Sound

omit [DecidableEq I] in
theorem consistent_empty : (empty : Snapshot I).Consistent where
  targets t := by
    constructor
    · intro ht
      cases ht
    · rintro ⟨k, ix, hix, -⟩
      cases k <;> cases hix
  owners o := by
    constructor
    · intro ho
      cases ho
    · rintro ⟨t, ht, -⟩
      cases ht
  slashFree o _ := o.slashFree
  targetsOnce := List.nodup_nil
  ownersOnce := List.nodup_nil
  inUse k ix hix := by cases k <;> cases hix
  ofKind k ix hix := by cases k <;> cases hix
  sound k ix hix := by cases k <;> cases hix

namespace Consistent

variable {s : Snapshot I}

omit [DecidableEq I] in
theorem indexOf_sound (hs : s.Consistent) (k : Kind) :
    (s.indexOf k).Sound ∧ (s.indexOf k).kind = k := by
  unfold indexOf
  cases hix : s.indexes.get k with
  | none => exact ⟨TargetIndex.sound_empty k, rfl⟩
  | some ix => exact ⟨hs.sound k ix hix, hs.ofKind k ix hix⟩

omit [DecidableEq I] in
theorem mem_targets_iff (hs : s.Consistent) {t : Target} :
    t ∈ s.targets ↔ t ∈ (s.indexOf t.kind).targets := by
  rw [hs.targets]
  unfold indexOf
  constructor
  · rintro ⟨k, ix, hix, ht⟩
    have kind : t.kind = k := ((hs.sound k ix hix).ofKind t ht).trans (hs.ofKind k ix hix)
    rw [kind, hix]
    exact ht
  · intro ht
    cases hix : s.indexes.get t.kind with
    | none => rw [hix] at ht; cases ht
    | some ix => rw [hix] at ht; exact ⟨t.kind, ix, hix, ht⟩

theorem mem_targets_put (hs : s.Consistent) {h : Handle I} {t u : Target} :
    u ∈ s.targets.insert t ↔
      ∃ k ix, (Snapshot.put h s t).indexes.get k = some ix ∧ u ∈ ix.targets := by
  rw [List.mem_insert_iff]
  constructor
  · rintro (rfl | old)
    · exact ⟨h.kind, _, by rw [get_put, if_pos rfl], TargetIndex.mem_targets_put.2 (Or.inr rfl)⟩
    · obtain ⟨k, ix, hix, hu⟩ := (hs.targets u).1 old
      by_cases same : k = h.kind
      · refine ⟨k, _, by rw [get_put, if_pos same], TargetIndex.mem_targets_put.2 (Or.inl ?_)⟩
        rw [indexOf, ← same, hix]
        exact hu
      · exact ⟨k, ix, by rw [get_put, if_neg same, hix], hu⟩
  · rintro ⟨k, ix, hix, hu⟩
    rw [get_put] at hix
    split at hix
    · cases hix
      rcases TargetIndex.mem_targets_put.1 hu with old | rfl
      · obtain ⟨sound, kind⟩ := hs.indexOf_sound h.kind
        have ofKind : u.kind = h.kind := (sound.ofKind u old).trans kind
        rw [← ofKind] at old
        exact Or.inr (hs.mem_targets_iff.2 old)
      · exact Or.inl rfl
    · exact Or.inr ((hs.targets u).2 ⟨k, ix, hix, hu⟩)

omit [DecidableEq I] in
theorem mem_owners_put (hs : s.Consistent) {t : Target} {o : ClassName} :
    o ∈ s.owners.insert t.owner ↔ ∃ u ∈ s.targets.insert t, u.owner = o := by
  rw [List.mem_insert_iff, hs.owners]
  constructor
  · rintro (rfl | ⟨u, hu, rfl⟩)
    · exact ⟨t, List.mem_insert_self, rfl⟩
    · exact ⟨u, List.mem_insert_of_mem hu, rfl⟩
  · rintro ⟨u, hu, rfl⟩
    rcases List.mem_insert_iff.1 hu with rfl | old
    · exact Or.inl rfl
    · exact Or.inr ⟨u, old, rfl⟩

theorem put (hs : s.Consistent) {h : Handle I} {t : Target} (ht : t.kind = h.kind) :
    (put h s t).Consistent := by
  obtain ⟨sound, kind⟩ := hs.indexOf_sound h.kind
  refine {
    targets := fun u => hs.mem_targets_put
    owners := fun o => hs.mem_owners_put
    slashFree := fun o _ => o.slashFree
    targetsOnce := hs.targetsOnce.insert
    ownersOnce := hs.ownersOnce.insert
    inUse := ?_
    ofKind := ?_
    sound := ?_ }
  all_goals
    intro k ix hix
    rw [get_put] at hix
    split at hix
  -- For each of the three, the index that was changed and then another.
  · cases hix
    exact List.ne_nil_of_mem (TargetIndex.mem_targets_put.2 (Or.inr rfl))
  · exact hs.inUse k ix hix
  · next same =>
    cases hix
    rw [TargetIndex.kind_put, kind, same]
  · exact hs.ofKind k ix hix
  · cases hix
    exact sound.put (ht.trans kind.symm) h.id
  · exact hs.sound k ix hix

theorem putAll (hs : s.Consistent) {h : Handle I} {ts : List Target}
    (hts : ∀ t ∈ ts, t.kind = h.kind) : (s.putAll h ts).Consistent := by
  induction ts generalizing s with
  | nil => exact hs
  | cons t rest ih =>
    exact ih (hs.put (hts t List.mem_cons_self)) fun u hu => hts u (List.mem_cons_of_mem _ hu)

omit [DecidableEq I] in
theorem close (hs : s.Consistent) : s.close.Consistent := by
  cases hs
  constructor <;> assumption

/-! ## What is asked of it -/

omit [DecidableEq I] in
theorem isTargeted_iff (hs : s.Consistent) {t : Target} :
    s.isTargeted t = true ↔ t ∈ (s.indexOf t.kind).targets := by
  rw [isTargeted, List.contains_iff_mem, hs.mem_targets_iff]

omit [DecidableEq I] in
theorem isTargeted_iff_handlesFor (hs : s.Consistent) {t : Target} :
    s.isTargeted t = true ↔ s.handlesFor t ≠ [] := by
  have sound := (hs.indexOf_sound t.kind).1
  rw [hs.isTargeted_iff, handlesFor, ne_eq, List.map_eq_nil_iff, sequence_eq,
    sound.sequence_eq_nil_iff, not_not]

omit [DecidableEq I] in
theorem touchesClass_iff (hs : s.Consistent) {owner : ClassName} :
    s.touchesClass owner = true ↔ ∃ t, s.isTargeted t = true ∧ t.owner = owner := by
  simp only [touchesClass, isTargeted, List.contains_iff_mem]
  exact hs.owners owner

omit [DecidableEq I] in
/-- The loader is told of a class by the targets that belong to it when it is written with dots. -/
theorem needsClass_iff (hs : s.Consistent) {owner : String} :
    s.needsClass owner = true ↔
      ∃ t, s.isTargeted t = true ∧ t.owner.text = owner.map dotted := by
  rw [needsClass_ofText, hs.touchesClass_iff]
  simp only [ClassName.ext_iff, ClassName.ofText]

omit [DecidableEq I] in
theorem present_iff (hs : s.Consistent) {k : Kind} :
    (s.indexes.get k).isSome = true ↔ (s.indexOf k).targets ≠ [] := by
  unfold indexOf
  cases hix : s.indexes.get k with
  | none => simp [TargetIndex.empty, TargetIndex.targets]
  | some ix => simp [hs.inUse k ix hix]

omit [DecidableEq I] in
theorem kinds_eq (hs : s.Consistent) :
    s.kinds = Kind.all.filter fun k => s.targets.any (·.kind = k) := by
  refine List.filter_congr fun k _ => ?_
  rw [Bool.eq_iff_iff, hs.present_iff, List.any_eq_true]
  obtain ⟨sound, kind⟩ := hs.indexOf_sound k
  constructor
  · intro some
    obtain ⟨t, ht⟩ := List.exists_mem_of_ne_nil _ some
    have ofKind : t.kind = k := (sound.ofKind t ht).trans kind
    refine ⟨t, hs.mem_targets_iff.2 ?_, by simp [ofKind]⟩
    rwa [ofKind]
  · rintro ⟨t, ht, ofKind⟩
    have ofKind : t.kind = k := by simpa using ofKind
    rw [hs.mem_targets_iff, ofKind] at ht
    exact List.ne_nil_of_mem ht

omit [DecidableEq I] in
theorem sequence_of_kind_ne (hs : s.Consistent) {k : Kind} {t : Target} (h : t.kind ≠ k) :
    s.sequence k t = [] := by
  obtain ⟨sound, kind⟩ := hs.indexOf_sound k
  rw [sequence_eq, sound.sequence_eq_nil_iff]
  intro ht
  exact h ((sound.ofKind t ht).trans kind)

end Consistent

end Snapshot

theorem Store.Reachable.consistent {s : Store I} (hs : s.Reachable) : s.snapshot.Consistent := by
  obtain ⟨settings, log, grows⟩ := hs
  refine grows.invariant (P := fun s => s.snapshot.Consistent) ?_ ?_ Snapshot.consistent_empty
  · intro s t h declared done hs accepted
    obtain ⟨-, ofKind, rfl⟩ := Store.accept_eq_ok accepted
    exact hs.putAll fun t ht => ofKind t (List.mem_eraseDups.1 ht)
  · intro s hs
    rw [Store.snapshot_close]
    exact hs.close

end TransformRegistry
