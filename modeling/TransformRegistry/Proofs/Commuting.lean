import TransformRegistry.Proofs.Accepted
import TransformRegistry.Proofs.TargetOrder
import TransformRegistry.Proofs.Verdicts
import TransformRegistry.Session.Diagnostics

/-!
# Registrations commute

Transformers that are new to a store are taken in, whichever of them comes first. Their order is
seen nowhere but in the sequences of the targets that they share.
-/

namespace TransformRegistry

variable {I H E : Type} {U : Kind → Type}

/-! ## Lists in two orders -/

section Orders

variable {α : Type} {l m : List α}

theorem eq_of_sublists {a b : α} (once : m.Nodup) (first : [a, b].Sublist m)
    (next : [b, a].Sublist m) : a = b := by
  induction m with
  | nil => cases first
  | cons c rest ih =>
    obtain ⟨fresh, once⟩ := List.nodup_cons.1 once
    rcases List.sublist_cons_iff.1 first with later | ⟨_, ⟨⟩, tail⟩
    · rcases List.sublist_cons_iff.1 next with again | ⟨_, ⟨⟩, -⟩
      · exact ih once later again
      · exact absurd (later.subset (by simp)) fresh
    · rcases List.sublist_cons_iff.1 next with again | ⟨_, same, -⟩
      · exact absurd (again.subset (by simp)) fresh
      · cases same
        rfl

/-- Lists of the same members, none twice, are the same if each keeps the order of the other. -/
theorem eq_of_perm_of_sublists (perm : l.Perm m) (once : m.Nodup)
    (kept : ∀ a b, [a, b].Sublist l → [a, b].Sublist m) : l = m := by
  have left : l.Pairwise fun a b => [a, b].Sublist m :=
    List.pairwise_iff_forall_sublist.2 (kept _ _)
  have right : m.Pairwise fun a b => [a, b].Sublist m := List.pairwise_iff_forall_sublist.2 id
  exact perm.eq_of_pairwise (fun a b _ _ => eq_of_sublists once) left right

end Orders

open SessionM

/-! ## Registering a list of transformers -/

variable [DecidableEq I]

/-- Registers transformers one after another. -/
def registerEach (r : Roster I H E U) (hs : List (Handle I)) :
    SessionM I H (List (Except RegistrationError (List Placement))) :=
  hs.mapM (register r)

/-- These registrations are of transformers that the store does not have. Each declares targets of
its own kind, always the same, and gives a label, and does nothing to the store itself. -/
structure Independent (r : Roster I H E U) (s : Store I) (log : List (Declaration I)) : Prop where
  distinct : (log.map (·.1)).Nodup
  absent : ∀ d ∈ log, ∀ t, d.1 ∉ s.snapshot.handlesFor t
  declares : ∀ d ∈ log, d.2 ≠ []
  ofKind : ∀ d ∈ log, ∀ t ∈ d.2, t.kind = d.1.kind
  targets : ∀ d ∈ log, (r.targets d.1).Obeys unchanged ∧ ∀ s, (r.targets d.1).answer s = .ok d.2
  labels : ∀ d ∈ log, (r.label d.1).Obeys unchanged ∧ (r.label d.1).Ends

/-- The answer to a registration that finds the transformer under none of its targets. -/
def takenAnew (d : Declaration I) : Except RegistrationError (List Placement) :=
  .ok (d.2.eraseDups.map fun _ => .appended)

/-- The transformers that declare a target, in the order of their registrations. -/
def newcomers (log : List (Declaration I)) (t : Target) : List (Handle I) :=
  (log.filter (t ∈ ·.2)).map (·.1)

section One

variable {r : Roster I H E U} {s : Session I H} {d : Declaration I}

theorem Snapshot.verdict_of_absent {s : Snapshot I} (policy : RepeatPolicy)
    (absent : ∀ t, d.1 ∉ s.handlesFor t) (declares : d.2 ≠ [])
    (ofKind : ∀ t ∈ d.2, t.kind = d.1.kind) :
    s.verdict policy d.1 d.2 = .ok (d.2.eraseDups.map fun _ => .appended) := by
  have new : ∀ t ∈ d.2, ¬s.Has d.1 t := by
    intro t ht has
    rw [Snapshot.Has, sequence_eq, ← ofKind t ht] at has
    exact absent t (mem_handlesFor_iff.2 ⟨(ofKind t ht).symm, has⟩)
  have right : (d.2.find? fun t => t.kind != d.1.kind) = none := by
    simpa [List.find?_eq_none] using ofKind
  have free : (d.2.find? fun t => s.Rejects policy d.1 t) = none := by
    rw [List.find?_eq_none]
    intro t ht
    simp [Snapshot.Rejects, new t ht]
  have placed : d.2.eraseDups.map (s.placement d.1) = d.2.eraseDups.map fun _ => .appended :=
    List.map_congr_left fun t ht => if_neg (new t (List.mem_eraseDups.1 ht))
  rw [Snapshot.verdict, List.isEmpty_eq_false_iff.2 declares, right, free, ← placed]
  rfl

theorem register_of_absent (reachable : s.store.Reachable) (unsealed : s.store.isSealed = false)
    (one : Independent r s.store [d]) :
    ∃ t, register r d.1 s = .ok (takenAnew d) t ∧ s.store.Grows [d] t.store ∧
      t.store.isSealed = false ∧ ∀ target, t.store.snapshot.handlesFor target =
        s.store.snapshot.handlesFor target ++ newcomers [d] target := by
  have here : d ∈ [d] := List.mem_singleton_self d
  obtain ⟨quiet, answers⟩ := one.targets d here
  obtain ⟨mute, names⟩ := one.labels d here
  have targeted := eq_ok_of_answer (answers s)
  have verdict := Snapshot.verdict_of_absent s.store.settings.repeats (one.absent d here)
    (one.declares d here) (one.ofKind d here)
  have accepted := Store.accept_eq_verdict unsealed reachable.consistent d.1 d.2
  have takes := Store.takes_putAll reachable.consistent d.1 d.2
  have settled := registerFor_settled mute.calm (s := (r.targets d.1).after s) trivial d.2
  rw [verdict] at accepted
  rw [← register_of_unsealed unsealed targeted, store_eq_of_ok quiet targeted] at settled
  rcases settled.of_accepted accepted with ⟨t, ended, taken, -⟩ | ⟨c, u, v, -, unlabelled, -⟩
  swap
  · exact absurd unlabelled (names.ne_error u v c)
  rw [List.map_snd_zip (by simp)] at ended
  refine ⟨t, ended, taken ▸ .accept accepted (.refl _), taken ▸ takes.isSealed.trans unsealed,
    fun target => ?_⟩
  rw [taken, Snapshot.handlesFor, takes.sequence, Snapshot.handlesFor]
  by_cases declares : target ∈ d.2
  · have kind := one.ofKind d here target declares
    have new : ¬s.store.snapshot.Has d.1 target := by
      rw [Snapshot.Has, Snapshot.sequence_eq, ← kind]
      exact fun has => one.absent d here target (Snapshot.mem_handlesFor_iff.2 ⟨kind.symm, has⟩)
    rw [if_pos ⟨kind, declares, new⟩, List.map_append, kind]
    simp [newcomers, declares]
  · rw [if_neg fun all => declares all.2.1]
    simp [newcomers, declares]

end One

section Each

variable {r : Roster I H E U} {s : Session I H} {log other : List (Declaration I)}

omit [DecidableEq I] in
theorem Independent.rest {d : Declaration I} {s t : Store I} (all : Independent r s (d :: log))
    (grown : ∀ target, t.snapshot.handlesFor target =
      s.snapshot.handlesFor target ++ newcomers [d] target) : Independent r t log where
  distinct := (List.nodup_cons.1 all.distinct).2
  absent e he target found := by
    rw [grown, List.mem_append] at found
    rcases found with before | first
    · exact all.absent e (List.mem_cons_of_mem _ he) target before
    · obtain ⟨f, hf, same⟩ := List.mem_map.1 first
      obtain rfl := List.mem_singleton.1 (List.mem_filter.1 hf).1
      exact (List.nodup_cons.1 all.distinct).1 (List.mem_map.2 ⟨e, he, same.symm⟩)
  declares e he := all.declares e (List.mem_cons_of_mem _ he)
  ofKind e he := all.ofKind e (List.mem_cons_of_mem _ he)
  targets e he := all.targets e (List.mem_cons_of_mem _ he)
  labels e he := all.labels e (List.mem_cons_of_mem _ he)

omit [DecidableEq I] in
theorem Independent.first {d : Declaration I} {s : Store I} (all : Independent r s (d :: log)) :
    Independent r s [d] where
  distinct := List.nodup_singleton _
  absent := by simpa using all.absent d List.mem_cons_self
  declares := by simpa using all.declares d List.mem_cons_self
  ofKind := by simpa using all.ofKind d List.mem_cons_self
  targets := by simpa using all.targets d List.mem_cons_self
  labels := by simpa using all.labels d List.mem_cons_self

omit [DecidableEq I] in
theorem newcomers_cons (d : Declaration I) (log : List (Declaration I)) (t : Target) :
    newcomers (d :: log) t = newcomers [d] t ++ newcomers log t := by
  rw [newcomers, ← List.singleton_append, List.filter_append, List.map_append]
  rfl

/-- Independent registrations are all taken in, and every sequence grows by those that declare its
target. -/
theorem registerEach_independent (reachable : s.store.Reachable)
    (unsealed : s.store.isSealed = false) (all : Independent r s.store log) :
    ∃ t, registerEach r (log.map (·.1)) s = .ok (log.map takenAnew) t ∧
      s.store.Grows log t.store ∧ ∀ target, t.store.snapshot.handlesFor target =
        s.store.snapshot.handlesFor target ++ newcomers log target := by
  induction log generalizing s with
  | nil => exact ⟨s, rfl, .refl _, fun target => (List.append_nil _).symm⟩
  | cons d rest ih =>
    obtain ⟨t, ran, grows, still, first⟩ := register_of_absent reachable unsealed all.first
    obtain ⟨u, later, more, next⟩ :=
      ih (reachable.grow ⟨_, grows⟩) still (all.rest first)
    refine ⟨u, ?_, grows.trans more, fun target => ?_⟩
    · rw [registerEach, List.map_cons, List.mapM_cons, bind_of_ok ran]
      exact bind_of_ok later
    · rw [next, first, List.append_assoc, ← newcomers_cons]

end Each

/-! ## Two orders -/

section Orders

variable {r : Roster I H E U} {log other : List (Declaration I)}

omit [DecidableEq I] in
theorem Independent.perm {s : Store I} (all : Independent r s log) (perm : log.Perm other) :
    Independent r s other where
  distinct := (perm.map _).nodup_iff.1 all.distinct
  absent d hd := all.absent d (perm.mem_iff.2 hd)
  declares d hd := all.declares d (perm.mem_iff.2 hd)
  ofKind d hd := all.ofKind d (perm.mem_iff.2 hd)
  targets d hd := all.targets d (perm.mem_iff.2 hd)
  labels d hd := all.labels d (perm.mem_iff.2 hd)

/-- Nothing of the order shows in what the snapshots say of their targets and owners. -/
structure Snapshot.Alike (a b : Snapshot I) : Prop where
  targets : a.targets.Perm b.targets
  isTargeted : ∀ t, a.isTargeted t = b.isTargeted t
  owners : a.owners.Perm b.owners
  touchesClass : ∀ owner, a.touchesClass owner = b.touchesClass owner
  kinds : a.kinds = b.kinds
  described : ∀ {H E : Type} {U : Kind → Type} (r : Roster I H E U) {s t u v : Session I H}
    {d e : Description}, a.description r s = .ok d t → b.description r u = .ok e v →
    d.owners = e.owners
  /-- And both can be described where no transformer crashes. -/
  describes : ∀ {H E : Type} {U : Kind → Type} (r : Roster I H E U), r.DeclaresWith Ends →
    (a.description r).Ends ∧ (b.description r).Ends

omit [DecidableEq I] in
theorem owners_of_description {r : Roster I H E U} {a : Snapshot I} {s t : Session I H}
    {d : Description} (described : a.description r s = .ok d t) :
    d.owners = ClassName.sort a.owners := by
  obtain ⟨cls, s₁, -, described⟩ := bind_eq_ok described
  obtain ⟨method, s₂, -, described⟩ := bind_eq_ok described
  obtain ⟨field, s₃, -, described⟩ := bind_eq_ok described
  cases described
  rfl

omit [DecidableEq I] in
theorem Snapshot.Consistent.alike {a b : Snapshot I} (ha : a.Consistent) (hb : b.Consistent)
    (same : ∀ t, a.handlesFor t = [] ↔ b.handlesFor t = []) : a.Alike b := by
  have isTargeted (t : Target) : a.isTargeted t = b.isTargeted t := by
    rw [Bool.eq_iff_iff, ha.isTargeted_iff_handlesFor, hb.isTargeted_iff_handlesFor, ne_eq, ne_eq,
      same]
  have touchesClass (owner : ClassName) : a.touchesClass owner = b.touchesClass owner := by
    rw [Bool.eq_iff_iff, ha.touchesClass_iff, hb.touchesClass_iff]
    simp only [isTargeted]
  have targets : a.targets.Perm b.targets :=
    (List.perm_ext_iff_of_nodup ha.targetsOnce hb.targetsOnce).2 fun t => by
      simpa [Snapshot.isTargeted] using isTargeted t
  have owners : a.owners.Perm b.owners :=
    (List.perm_ext_iff_of_nodup ha.ownersOnce hb.ownersOnce).2 fun owner => by
      simpa [Snapshot.touchesClass] using touchesClass owner
  have describes {H E : Type} {U : Kind → Type} (r : Roster I H E U) (ends : r.DeclaresWith Ends) :
      (a.description r).Ends ∧ (b.description r).Ends :=
    ⟨ends_heritable.description ends, ends_heritable.description ends⟩
  refine ⟨targets, isTargeted, owners, touchesClass, ?_, fun r s t u v d e first next => ?_,
    describes⟩
  · rw [ha.kinds_eq, hb.kinds_eq]
    refine List.filter_congr fun k _ => ?_
    exact targets.any_eq
  · rw [owners_of_description first, owners_of_description next, ClassName.sort_eq_of_perm owners]

/-- Registrations that share a target come in the same order in both lists. -/
def SharersInOrder (log other : List (Declaration I)) : Prop :=
  log.Pairwise fun d e => (∃ t ∈ d.2, t ∈ e.2) → [d, e].Sublist other

instance (log other : List (Declaration I)) : Decidable (SharersInOrder log other) :=
  inferInstanceAs (Decidable (List.Pairwise _ _))

omit [DecidableEq I] in
theorem newcomers_eq (perm : log.Perm other) (once : other.Nodup)
    (kept : SharersInOrder log other) (t : Target) : newcomers log t = newcomers other t := by
  have same : log.filter (t ∈ ·.2) = other.filter (t ∈ ·.2) := by
    refine eq_of_perm_of_sublists (perm.filter _) (once.filter _) fun d e both => ?_
    have hd : t ∈ d.2 := by simpa using (List.mem_filter.1 (both.subset (by simp : d ∈ [d, e]))).2
    have he : t ∈ e.2 := by simpa using (List.mem_filter.1 (both.subset (by simp : e ∈ [d, e]))).2
    have declare : [d, e].filter (t ∈ ·.2) = [d, e] := by simp [hd, he]
    rw [← declare]
    have order := List.pairwise_iff_forall_sublist.1 kept (both.trans List.filter_sublist)
    exact (order ⟨t, hd, he⟩).filter _
  rw [newcomers, same, newcomers]

/-- Transformers that the store does not have are all taken in, in either order. The stores say the
same of their targets and owners, and every sequence has the same members. Where those that share a
target come in the same order, no sequence tells one store from the other. -/
theorem registerEach_commutes (r : Roster I H E U) (s : Session I H)
    (reachable : s.store.Reachable) (unsealed : s.store.isSealed = false)
    (log other : List (Declaration I)) (all : Independent r s.store log)
    (perm : log.Perm other) :
    ∃ t u, registerEach r (log.map (·.1)) s = .ok (log.map takenAnew) t ∧
      registerEach r (other.map (·.1)) s = .ok (other.map takenAnew) u ∧
      t.store.snapshot.Alike u.store.snapshot ∧
      (∀ target,
        (t.store.snapshot.handlesFor target).Perm (u.store.snapshot.handlesFor target) ∧
        (t.store.snapshot.handlesFor target).length =
          (s.store.snapshot.handlesFor target).length + log.countP (target ∈ ·.2)) ∧
      (SharersInOrder log other → ∀ target,
        t.store.snapshot.handlesFor target = u.store.snapshot.handlesFor target) := by
  obtain ⟨t, ran, grows, contents⟩ := registerEach_independent reachable unsealed all
  obtain ⟨u, ran', grows', contents'⟩ :=
    registerEach_independent reachable unsealed (all.perm perm)
  have sequences (target : Target) : (t.store.snapshot.handlesFor target).Perm
      (u.store.snapshot.handlesFor target) := by
    rw [contents, contents']
    exact ((perm.filter _).map _).append_left _
  have alike := (reachable.grow ⟨_, grows⟩).consistent.alike (reachable.grow ⟨_, grows'⟩).consistent
    fun target => by rw [← List.length_eq_zero_iff, (sequences target).length_eq,
      List.length_eq_zero_iff]
  refine ⟨t, u, ran, ran', alike, fun target => ⟨sequences target, ?_⟩, fun kept target => ?_⟩
  · rw [contents, List.length_append, newcomers, List.length_map, List.countP_eq_length_filter]
  · have once : other.Nodup := .of_map _ (all.perm perm).distinct
    rw [contents, contents', newcomers_eq perm once kept]

end Orders

/-- One of the class transformers declares two classes, the others only the first of them. -/
def overlaps : Handle Nat → List Target
  | ⟨.cls, 2⟩ => [.ofClass "A", .ofClass "B"]
  | ⟨.cls, _⟩ => [.ofClass "A"]
  | ⟨.method, _⟩ => [.ofMethod "B" "m" "()V"]
  | ⟨.field, _⟩ => [.ofField "B" "f" "I"]

def overlapping : Roster Nat Unit Unit PlainUnit := .marking fun h => return overlaps h

theorem independent_overlapping {s : Store Nat} {hs : List (Handle Nat)} (distinct : hs.Nodup)
    (absent : ∀ h ∈ hs, ∀ t, h ∉ s.snapshot.handlesFor t) :
    Independent overlapping s (hs.map fun h => (h, overlaps h)) where
  distinct := by simpa [Function.comp_def] using distinct
  absent := List.forall_mem_map.2 absent
  declares := List.forall_mem_map.2 fun h _ => by unfold overlaps; split <;> simp
  ofKind := List.forall_mem_map.2 fun h _ => by unfold overlaps; split <;> simp
  targets := List.forall_mem_map.2 fun _ _ => ⟨obeys_pure _, fun _ => rfl⟩
  labels _ _ := ⟨obeys_pure _, fun _ => ⟨_, rfl⟩⟩

/-- The field transformer comes last or first. This does not make the same store, but nobody can
tell. -/
theorem registerEach_commutes_overlapping :
    let s₀ : Session Nat Unit := { store := .empty, host := () }
    let s := (register overlapping ⟨.cls, 0⟩).after s₀
    let t := (registerEach overlapping [⟨.cls, 1⟩, ⟨.cls, 2⟩, ⟨.field, 1⟩]).after s
    let u := (registerEach overlapping [⟨.field, 1⟩, ⟨.cls, 1⟩, ⟨.cls, 2⟩]).after s
    t.store ≠ u.store ∧ t.store.snapshot.Alike u.store.snapshot ∧
      t.store.snapshot.handlesFor (.ofClass "A") = [⟨.cls, 0⟩, ⟨.cls, 1⟩, ⟨.cls, 2⟩] ∧
      ∀ target, t.store.snapshot.handlesFor target = u.store.snapshot.handlesFor target := by
  intro s₀ s t u
  have began : s₀.store.Reachable := Store.reachable_empty {}
  have one : Independent overlapping s₀.store ([⟨.cls, 0⟩].map fun h => (h, overlaps h)) :=
    independent_overlapping (by decide) fun _ _ target found => by cases target <;> cases found
  obtain ⟨s', ran, grows, unsealed, contents⟩ := register_of_absent began rfl one
  obtain rfl : s = s' := after_of_ok ran
  let log : List (Declaration Nat) :=
    [⟨.cls, 1⟩, ⟨.cls, 2⟩, ⟨.field, 1⟩].map fun h => (h, overlaps h)
  have all : Independent overlapping s.store log := by
    refine independent_overlapping (by decide) fun h hh target found => ?_
    rw [contents, List.mem_append] at found
    rcases found with before | first
    · cases target <;> cases before
    · obtain ⟨d, hd, rfl⟩ := List.mem_map.1 first
      rw [List.mem_singleton.1 (List.mem_filter.1 hd).1] at hh
      revert hh
      decide
  have moved : log.Perm (log.drop 2 ++ log.take 2) := @List.perm_append_comm _ (log.take 2) _
  obtain ⟨t', u', ran, ran', alike, -, same⟩ :=
    registerEach_commutes overlapping s (began.grow ⟨_, grows⟩) unsealed log _ all moved
  obtain rfl : t = t' := after_of_ok ran
  obtain rfl : u = u' := after_of_ok ran'
  exact ⟨by decide +kernel, alike, by decide +kernel, same (by decide +kernel)⟩

end TransformRegistry
