import TransformRegistry.Proofs.Obedience

/-!
# How a store grows

What an accepted registration leaves behind does not depend on the policy: each declared target
gets the instance at the end of its sequence, unless it is there already. A store that began empty
has grown by the registrations that it accepted, and may have been sealed on the way.
-/

namespace TransformRegistry

variable {I H α : Type} [DecidableEq I]

/-! ## One target -/

/-- The index with an instance at the end of the sequence of a target, where it was not before. -/
def TargetIndex.put (ix : TargetIndex I) (t : Target) (i : I) : TargetIndex I :=
  if i ∈ ix.sequence t then ix else { ix with sequences := ix.sequences.append t [i] }

theorem TargetIndex.insert_eq_ok {ix next : TargetIndex I} {policy : RepeatPolicy} {t : Target}
    {i : I} {placement : Placement} (h : ix.insert policy t i = .ok (placement, next)) :
    next = ix.put t i := by
  unfold TargetIndex.insert at h
  unfold TargetIndex.put
  split at h
  · cases h
  · split at h
    · next present =>
      rw [if_pos present]
      cases policy with
      | reject => cases h
      | ignore => cases h; rfl
    · next absent =>
      rw [if_neg absent]
      cases h
      rfl

omit [DecidableEq I] in
theorem TargetIndex.mem_targets_of_mem_sequence {ix : TargetIndex I} {t : Target} {i : I}
    (h : i ∈ ix.sequence t) : t ∈ ix.targets := by
  by_cases present : t ∈ ix.targets
  · exact present
  · have none : ix.sequence t = [] := Keyed.get_of_not_mem_keys present
    rw [none] at h
    cases h

@[simp] theorem TargetIndex.kind_put (ix : TargetIndex I) (t : Target) (i : I) :
    (ix.put t i).kind = ix.kind := by
  unfold TargetIndex.put
  split <;> rfl

theorem TargetIndex.targets_put (ix : TargetIndex I) (t : Target) (i : I) :
    (ix.put t i).targets = if t ∈ ix.targets then ix.targets else ix.targets ++ [t] := by
  unfold TargetIndex.put
  split
  · next present => rw [if_pos (mem_targets_of_mem_sequence present)]
  · exact Keyed.keys_append ..

theorem TargetIndex.mem_targets_put {ix : TargetIndex I} {t u : Target} {i : I} :
    u ∈ (ix.put t i).targets ↔ u ∈ ix.targets ∨ u = t := by
  rw [targets_put]
  split
  · next h =>
    constructor
    · exact Or.inl
    · rintro (hu | rfl)
      · exact hu
      · exact h
  · rw [List.mem_append, List.mem_singleton]

theorem TargetIndex.sequence_put_self (ix : TargetIndex I) (t : Target) (i : I) :
    (ix.put t i).sequence t =
      if i ∈ ix.sequence t then ix.sequence t else ix.sequence t ++ [i] := by
  unfold TargetIndex.put
  split
  · rfl
  · exact Keyed.get_append_self ..

theorem TargetIndex.sequence_put_of_ne (ix : TargetIndex I) {t u : Target} (i : I) (h : u ≠ t) :
    (ix.put t i).sequence u = ix.sequence u := by
  unfold TargetIndex.put
  split
  · rfl
  · exact Keyed.get_append_of_ne _ _ h

/-! ## A whole declaration -/

namespace Snapshot

def put (h : Handle I) (s : Snapshot I) (t : Target) : Snapshot I :=
  { s with
    indexes := s.indexes.set h.kind (some ((s.indexOf h.kind).put t h.id))
    targets := s.targets.insert t
    owners := s.owners.insert t.owner }

def putAll (s : Snapshot I) (h : Handle I) (ts : List Target) : Snapshot I := ts.foldl (put h) s

theorem putAll_cons (s : Snapshot I) (h : Handle I) (t : Target) (ts : List Target) :
    s.putAll h (t :: ts) = (put h s t).putAll h ts := rfl

theorem isSealed_putAll (s : Snapshot I) (h : Handle I) (ts : List Target) :
    (s.putAll h ts).isSealed = s.isSealed := by
  induction ts generalizing s with
  | nil => rfl
  | cons t rest ih => rw [putAll_cons, ih]; rfl

theorem insert_eq_ok {s last : Snapshot I} {policy : RepeatPolicy} {h : Handle I}
    {ts : List Target} {placements : List Placement}
    (hi : s.insert policy h ts = .ok (placements, last)) : last = s.putAll h ts := by
  induction ts generalizing s placements with
  | nil => cases hi; rfl
  | cons t rest ih =>
    unfold insert insertOne at hi
    cases first : (s.indexOf h.kind).insert policy t h.id with
    | error e => simp [first] at hi
    | ok one =>
      obtain ⟨placement, ix⟩ := one
      rw [first] at hi
      simp only at hi
      split at hi
      · cases hi
      · next more hmore =>
        cases hi
        rw [ih hmore, TargetIndex.insert_eq_ok first, putAll_cons]
        rfl

theorem get_put (s : Snapshot I) (h : Handle I) (t : Target) (k : Kind) :
    (put h s t).indexes.get k =
      if k = h.kind then some ((s.indexOf h.kind).put t h.id) else s.indexes.get k :=
  PerKind.get_set ..

theorem indexOf_put (s : Snapshot I) (h : Handle I) (t : Target) (k : Kind) :
    (put h s t).indexOf k =
      if k = h.kind then (s.indexOf k).put t h.id else s.indexOf k := by
  rw [indexOf, get_put]
  split
  · next same => rw [same, Option.getD_some]
  · rfl

omit [DecidableEq I] in
theorem sequence_eq (s : Snapshot I) (k : Kind) (t : Target) :
    s.sequence k t = (s.indexOf k).sequence t := by
  unfold sequence indexOf
  cases s.indexes.get k <;> rfl

end Snapshot

/-! ## Accepted registrations -/

theorem Store.accept_eq_ok {s next : Store I} {h : Handle I} {declared : List Target}
    {done : List (Target × Placement)} (ha : s.accept h declared = .ok (done, next)) :
    s.isSealed = false ∧ (∀ t ∈ declared, t.kind = h.kind) ∧
      next = s.publish (s.snapshot.putAll h declared.eraseDups) := by
  unfold Store.accept at ha
  simp only at ha
  split at ha
  · cases ha
  · split at ha
    · cases ha
    · next ofKind =>
      split at ha
      · cases ha
      · next unsealed =>
        split at ha
        · cases ha
        · next placements last inserted =>
          cases ha
          refine ⟨by simpa using unsealed, fun t ht => ?_, ?_⟩
          · have := List.find?_eq_none.1 ofKind t (List.mem_eraseDups.2 ht)
            simpa using this
          · rw [Snapshot.insert_eq_ok inserted]

/-- The store takes in the registrations of the list, in order, and is perhaps sealed. -/
inductive Store.Grows : Store I → List (Declaration I) → Store I → Prop
  | refl (s : Store I) : Grows s [] s
  | accept {s t u : Store I} {h : Handle I} {declared : List Target}
      {done : List (Target × Placement)} {log : List (Declaration I)} :
      s.accept h declared = .ok (done, t) → Grows t log u → Grows s ((h, declared) :: log) u
  | close {s u : Store I} {log : List (Declaration I)} : Grows s.close log u → Grows s log u

namespace Store.Grows

theorem trans {s t u : Store I} {log more : List (Declaration I)} (first : s.Grows log t)
    (next : t.Grows more u) : s.Grows (log ++ more) u := by
  induction first with
  | refl => exact next
  | accept ha _ ih => exact .accept ha (ih next)
  | close _ ih => exact .close (ih next)

/-- What every accepted registration and the seal keep, growth keeps. -/
theorem invariant {P : Store I → Prop}
    (accept : ∀ {s t : Store I} {h : Handle I} {declared done},
      P s → s.accept h declared = .ok (done, t) → P t)
    (close : ∀ {s : Store I}, P s → P s.close) {s t : Store I} {log : List (Declaration I)}
    (grows : s.Grows log t) (hs : P s) : P t := by
  induction grows with
  | refl => exact hs
  | accept ha _ ih => exact ih (accept hs ha)
  | close _ ih => exact ih (close hs)

end Store.Grows

/-! ## What is taken in stays -/

theorem TargetIndex.mem_sequence_put {ix : TargetIndex I} {u : Target} {j : I}
    (h : j ∈ ix.sequence u) (t : Target) (i : I) : j ∈ (ix.put t i).sequence u := by
  by_cases same : u = t
  · subst same
    rw [sequence_put_self]
    split
    · exact h
    · exact List.mem_append_left _ h
  · rwa [sequence_put_of_ne _ _ same]

theorem TargetIndex.self_mem_sequence_put (ix : TargetIndex I) (t : Target) (i : I) :
    i ∈ (ix.put t i).sequence t := by
  rw [sequence_put_self]
  split
  · assumption
  · simp

namespace Snapshot

omit [DecidableEq I] in
theorem mem_handlesFor_iff {s : Snapshot I} {h : Handle I} {t : Target} :
    h ∈ s.handlesFor t ↔ h.kind = t.kind ∧ h.id ∈ (s.indexOf t.kind).sequence t := by
  rw [handlesFor, sequence_eq, List.mem_map]
  constructor
  · rintro ⟨i, hi, rfl⟩
    exact ⟨rfl, hi⟩
  · rintro ⟨kind, hi⟩
    exact ⟨h.id, hi, by rw [← kind]⟩

theorem mem_handlesFor_put {s : Snapshot I} {g : Handle I} {u : Target} (hg : g ∈ s.handlesFor u)
    (h : Handle I) (t : Target) : g ∈ (put h s t).handlesFor u := by
  rw [mem_handlesFor_iff] at hg ⊢
  refine ⟨hg.1, ?_⟩
  rw [indexOf_put]
  split
  · exact TargetIndex.mem_sequence_put hg.2 t h.id
  · exact hg.2

theorem mem_handlesFor_putAll {s : Snapshot I} {g : Handle I} {u : Target}
    (hg : g ∈ s.handlesFor u) (h : Handle I) (ts : List Target) :
    g ∈ (s.putAll h ts).handlesFor u := by
  induction ts generalizing s with
  | nil => exact hg
  | cons t rest ih => exact ih (mem_handlesFor_put hg h t)

theorem self_mem_handlesFor_putAll (s : Snapshot I) {h : Handle I} {ts : List Target} {t : Target}
    (ht : t ∈ ts) (kind : t.kind = h.kind) : h ∈ (s.putAll h ts).handlesFor t := by
  induction ts generalizing s with
  | nil => cases ht
  | cons u rest ih =>
    rw [putAll_cons]
    rcases List.mem_cons.1 ht with rfl | later
    · apply mem_handlesFor_putAll
      rw [mem_handlesFor_iff, indexOf_put, if_pos kind]
      exact ⟨kind.symm, TargetIndex.self_mem_sequence_put ..⟩
    · exact ih _ later

end Snapshot

namespace Store.Grows

theorem mem_handlesFor {s t : Store I} {log : List (Declaration I)} (grows : s.Grows log t)
    {h : Handle I} {u : Target} (hh : h ∈ s.snapshot.handlesFor u) :
    h ∈ t.snapshot.handlesFor u := by
  refine grows.invariant (P := fun s => h ∈ s.snapshot.handlesFor u) ?_ ?_ hh
  · intro s t g declared done hs accepted
    obtain ⟨-, -, rfl⟩ := accept_eq_ok accepted
    exact Snapshot.mem_handlesFor_putAll hs g _
  · intro s hs
    rw [snapshot_close]
    exact hs

theorem accepted_present {s t : Store I} {log : List (Declaration I)} (grows : s.Grows log t) :
    ∀ d ∈ log, ∀ u ∈ d.2, d.1 ∈ t.snapshot.handlesFor u := by
  induction grows with
  | refl => exact fun d hd => nomatch hd
  | accept accepted rest ih =>
    intro d hd u hu
    rcases List.mem_cons.1 hd with rfl | later
    · obtain ⟨-, ofKind, rfl⟩ := accept_eq_ok accepted
      apply rest.mem_handlesFor
      exact Snapshot.self_mem_handlesFor_putAll _ (List.mem_eraseDups.2 hu) (ofKind u hu)
    · exact ih d later u hu
  | close _ ih => exact ih

end Store.Grows

/-- The store began empty and grew. -/
def Store.Reachable (s : Store I) : Prop :=
  ∃ settings log, (Store.empty settings).Grows log s

theorem Store.reachable_empty (settings : Settings) :
    (Store.empty settings : Store I).Reachable := ⟨settings, [], .refl _⟩

/-- Nothing happens to a store but growth. -/
def growth : StoreRule I where
  allows s t := ∃ log, s.Grows log t
  refl s := ⟨[], .refl s⟩
  trans := by
    rintro s t u ⟨log, first⟩ ⟨more, next⟩
    exact ⟨log ++ more, first.trans next⟩

theorem growth_allowsChanges : (growth : StoreRule I).AllowsChanges where
  accept ha := ⟨_, .accept ha (.refl _)⟩
  close _ := ⟨[], .close (.refl _)⟩

theorem Store.Reachable.grow {s t : Store I} (hs : s.Reachable) (grows : growth.allows s t) :
    t.Reachable := by
  obtain ⟨settings, log, first⟩ := hs
  obtain ⟨more, next⟩ := grows
  exact ⟨settings, log ++ more, first.trans next⟩

end TransformRegistry
