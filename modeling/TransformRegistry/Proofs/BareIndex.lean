import TransformRegistry.Proofs.Accepted

/-!
# An index of its own

An index that stands by itself, outside any store, holds for each target of its kind the instances
that it was given for it, in the order of the calls and each once. The policy decides how a repeat
is answered, and has no part in what the index holds.
-/

namespace TransformRegistry

variable {I H E : Type} {U : Kind → Type} [DecidableEq I]

open SessionM

/-! ## Calls on an index -/

/-- What an index is asked to take in. Each call has a policy of its own. -/
structure Insertion (I : Type) where
  target : Target
  id : I
  policy : RepeatPolicy

abbrev InsertionResult (I : Type) :=
  Except Crash (Except RegistrationError (Placement × TargetIndex I))

/-- The index after a call that ended so. Where there is no index in the answer, it is as it was. -/
def TargetIndex.afterwards (ix : TargetIndex I) : InsertionResult I → TargetIndex I
  | .ok (.ok (_, next)) => next
  | .ok (.error _) => ix
  | .error _ => ix

/-- The index with the instance put under the target, where the target is of its kind. -/
def TargetIndex.take (ix : TargetIndex I) (w : Target × I) : TargetIndex I :=
  if w.1.kind = ix.kind then ix.put w.1 w.2 else ix

namespace Insertion

def call (r : Roster I H E U) (c : Insertion I) (ix : TargetIndex I) :
    SessionM I H (Except RegistrationError (Placement × TargetIndex I)) :=
  registerIn r ix c.policy c.target c.id

/-- The index and the session after a call. -/
def run (r : Roster I H E U) (c : Insertion I) (found : TargetIndex I × Session I H) :
    TargetIndex I × Session I H :=
  (found.1.afterwards ((c.call r found.1).answer found.2), (c.call r found.1).after found.2)

def runAll (r : Roster I H E U) (calls : List (Insertion I)) (found : TargetIndex I × Session I H) :
    TargetIndex I × Session I H :=
  calls.foldl (fun found c => c.run r found) found

/-- What is asked for in a call, whatever its policy. -/
def wish (c : Insertion I) : Target × I := (c.target, c.id)

/-- How a call ends, and which index it leaves, where the transformer gives this label if it is
asked for one. -/
structure Settled (c : Insertion I) (ix next : TargetIndex I) (named : Except Crash String)
    (ended : InsertionResult I) : Prop where
  wrongKind : ∀ label, ended = .ok (.error ⟨label, .wrongKind ix.kind c.target⟩) ↔
    named = .ok label ∧ c.target.kind ≠ ix.kind
  alreadyRegistered : ∀ label, ended = .ok (.error ⟨label, .alreadyRegistered c.target⟩) ↔
    named = .ok label ∧ c.target.kind = ix.kind ∧ c.policy = .reject ∧ c.id ∈ ix.sequence c.target
  /-- There are no other reasons. -/
  refusal : ∀ e, ended = .ok (.error e) →
    e.refusal = .wrongKind ix.kind c.target ∨ e.refusal = .alreadyRegistered c.target
  /-- The label is asked for where there is something to say of the transformer. -/
  crashed : ∀ crash, ended = .error crash ↔
    named = .error crash ∧ (c.target.kind ≠ ix.kind ∨ c.id ∈ ix.sequence c.target)
  placed : ∀ placement last, ended = .ok (.ok (placement, last)) →
    next = last ∧ (placement = .alreadyThere ↔ c.id ∈ ix.sequence c.target)
  failed : (∀ placed, ended ≠ .ok (.ok placed)) → next = ix

end Insertion

/-! ## One call -/

section OneCall

variable {r : Roster I H E U} {ix : TargetIndex I} {policy : RepeatPolicy} {t : Target} {i : I}

theorem registerIn_of_wrongKind (wrong : t.kind ≠ ix.kind) :
    registerIn r ix policy t i =
      (fun label => .error ⟨label, .wrongKind ix.kind t⟩) <$> r.label ⟨ix.kind, i⟩ := by
  unfold registerIn TargetIndex.insert
  rw [if_pos wrong, ← bind_pure_comp]

theorem registerIn_of_rejected (ofKind : t.kind = ix.kind) (old : i ∈ ix.sequence t) :
    registerIn r ix .reject t i =
      (fun label => .error ⟨label, .alreadyRegistered t⟩) <$> r.label ⟨ix.kind, i⟩ := by
  unfold registerIn TargetIndex.insert
  rw [if_neg (not_not.2 ofKind), if_pos old, ← bind_pure_comp]

theorem registerIn_of_ignored (ofKind : t.kind = ix.kind) (old : i ∈ ix.sequence t) :
    registerIn r ix .ignore t i = (do
      reportRepeat r ⟨ix.kind, i⟩ t
      return .ok (.alreadyThere, ix)) := by
  unfold registerIn TargetIndex.insert
  rw [if_neg (not_not.2 ofKind), if_pos old]

theorem registerIn_of_new (ofKind : t.kind = ix.kind) (new : i ∉ ix.sequence t) :
    registerIn r ix policy t i = return .ok (.appended, ix.put t i) := by
  unfold registerIn TargetIndex.insert TargetIndex.put
  rw [if_neg (not_not.2 ofKind), if_neg new, if_neg new]

theorem answer_registerIn (s : Session I H) :
    let named := (r.label ⟨ix.kind, i⟩).answer s
    (registerIn r ix policy t i).answer s =
      if t.kind ≠ ix.kind then named.map fun label => .error ⟨label, .wrongKind ix.kind t⟩
      else if i ∈ ix.sequence t then named.map fun label => match policy with
        | .reject => .error ⟨label, .alreadyRegistered t⟩
        | .ignore => .ok (.alreadyThere, ix)
      else .ok (.ok (.appended, ix.put t i)) := by
  intro named
  by_cases wrong : t.kind ≠ ix.kind
  · rw [registerIn_of_wrongKind wrong, answer_map, if_pos wrong]
  rw [if_neg wrong]
  replace wrong := not_not.1 wrong
  by_cases old : i ∈ ix.sequence t
  · rw [if_pos old]
    cases policy with
    | reject => rw [registerIn_of_rejected wrong old, answer_map]
    | ignore =>
      rw [registerIn_of_ignored wrong old, answer_bind, reportRepeat, answer_bind]
      cases h : (r.label ⟨ix.kind, i⟩).answer s <;> simp only [named, h] <;> rfl
  · rw [if_neg old, registerIn_of_new wrong old]
    rfl

end OneCall

namespace Insertion

variable {r : Roster I H E U}

theorem settled (c : Insertion I) (ix : TargetIndex I) (s : Session I H) :
    c.Settled ix (c.run r (ix, s)).1 ((r.label ⟨ix.kind, c.id⟩).answer s)
      ((c.call r ix).answer s) := by
  have ended : (c.call r ix).answer s = _ := answer_registerIn s
  unfold run
  rw [ended]
  generalize (r.label ⟨ix.kind, c.id⟩).answer s = named
  by_cases kind : c.target.kind = ix.kind
  · by_cases old : c.id ∈ ix.sequence c.target
    · cases policy : c.policy <;> cases named <;>
        constructor <;> simp [kind, old, policy, Except.map, TargetIndex.afterwards]
    · cases named <;> constructor <;> simp [kind, old, TargetIndex.afterwards]
  · cases named <;> constructor <;> simp [kind, Except.map, TargetIndex.afterwards]

/-- The index takes in what is of its kind and not there yet, whatever the policy. -/
theorem index_run (c : Insertion I) (found : TargetIndex I × Session I H) :
    (c.run r found).1 = found.1.take c.wish := by
  obtain ⟨ix, s⟩ := found
  have ended : (c.call r ix).answer s = _ := answer_registerIn s
  unfold run wish TargetIndex.take
  rw [ended]
  by_cases kind : c.target.kind = ix.kind
  · by_cases old : c.id ∈ ix.sequence c.target
    · cases (r.label ⟨ix.kind, c.id⟩).answer s <;> cases policy : c.policy <;>
        simp [kind, old, TargetIndex.put, Except.map, TargetIndex.afterwards]
    · simp [kind, old, TargetIndex.afterwards]
  · cases (r.label ⟨ix.kind, c.id⟩).answer s <;>
      simp [kind, Except.map, TargetIndex.afterwards]

theorem index_runAll (calls : List (Insertion I)) (found : TargetIndex I × Session I H) :
    (runAll r calls found).1 = (calls.map wish).foldl TargetIndex.take found.1 := by
  induction calls generalizing found with
  | nil => rfl
  | cons c rest ih =>
    rw [List.map_cons, List.foldl_cons, ← index_run (r := r)]
    exact ih (c.run r found)

end Insertion

/-! ## Many calls -/

namespace TargetIndex

/-- The targets of the kind, and the instances that are wished for a target of the kind, each in the
order of the wishes and once. -/
structure Fulfils (ix : TargetIndex I) (k : Kind) (wishes : List (Target × I)) : Prop where
  kind : ix.kind = k
  targets : ix.targets = ((wishes.map (·.1)).filter (·.kind = k)).eraseDups
  sequence : ∀ t, ix.sequence t =
    ((wishes.filter fun w => w.1 = t ∧ t.kind = k).map (·.2)).eraseDups

variable {ix : TargetIndex I} {k : Kind} {wishes : List (Target × I)}

theorem fulfils_empty (k : Kind) : (empty k : TargetIndex I).Fulfils k [] :=
  ⟨rfl, rfl, fun _ => rfl⟩

theorem Fulfils.take (hix : ix.Fulfils k wishes) (w : Target × I) :
    (ix.take w).Fulfils k (wishes ++ [w]) := by
  obtain ⟨t, i⟩ := w
  unfold TargetIndex.take
  by_cases ofKind : t.kind = k
  swap
  · -- What is of another kind stands in neither list.
    rw [if_neg (by rwa [hix.kind])]
    refine ⟨hix.kind, ?_, fun u => ?_⟩
    · rw [hix.targets]
      simp [ofKind]
    · have other : ¬(t = u ∧ u.kind = k) := by
        rintro ⟨rfl, same⟩
        exact ofKind same
      rw [hix.sequence]
      simp [other]
  rw [if_pos (by rwa [hix.kind])]
  refine ⟨by rw [kind_put, hix.kind], ?_, fun u => ?_⟩
  · rw [targets_put, hix.targets, List.map_append, List.filter_append]
    simp only [List.map_singleton, List.filter_cons, ofKind, decide_true, if_true, List.filter_nil,
      eraseDups_append_singleton, List.mem_eraseDups]
  · by_cases here : u = t
    · subst here
      rw [sequence_put_self, hix.sequence]
      simp [ofKind, eraseDups_append_singleton, List.mem_eraseDups]
    · rw [sequence_put_of_ne _ _ here, hix.sequence]
      simp [Ne.symm here]

theorem fulfils_foldl (k : Kind) (wishes : List (Target × I)) :
    (wishes.foldl TargetIndex.take (empty k)).Fulfils k wishes := by
  induction wishes using List.reverseRecOn with
  | nil => exact fulfils_empty k
  | append_singleton wishes w ih =>
    rw [List.foldl_append]
    exact ih.take w

end TargetIndex

/-- After calls on an index that began empty, it holds what they asked for, each target and each
instance where it came first. Neither labels nor policies play a part in it. A call fails where the
target is of another kind, or where a repeat is to be rejected, and then changes nothing. -/
theorem runAll_contents (r : Roster I H E U) (k : Kind) (calls : List (Insertion I))
    (s : Session I H) :
    let found := Insertion.runAll r calls (.empty k, s)
    found.1.Fulfils k (calls.map Insertion.wish) ∧
      (∀ c : Insertion I, c.Settled found.1 (c.run r found).1
        ((r.label ⟨k, c.id⟩).answer found.2) ((c.call r found.1).answer found.2)) ∧
      ∀ (q : Roster I H E U) (others : List (Insertion I)) (s' : Session I H),
        others.map Insertion.wish = calls.map Insertion.wish →
          (Insertion.runAll q others (.empty k, s')).1 = found.1 := by
  intro found
  have holds : found.1.Fulfils k (calls.map Insertion.wish) := by
    rw [Insertion.index_runAll]
    exact TargetIndex.fulfils_foldl k _
  refine ⟨holds, fun c => ?_, fun q others s' same => ?_⟩
  · rw [← holds.kind]
    exact c.settled found.1 found.2
  · rw [Insertion.index_runAll, Insertion.index_runAll, same]

/-- All have the same label. -/
def namesakes : Roster Nat Unit Unit PlainUnit where
  transformer k i :=
    { (Roster.marking fun _ => return []).transformer k i with label := return "same" }

/-- Two of one label stand under one target. A repeat and a field are refused, and the index is as
it would be if repeats were ignored. -/
theorem runAll_contents_namesakes :
    let b : Target := .ofClass "B"
    let calls : List (Insertion Nat) := [⟨b, 1, .reject⟩, ⟨b, 2, .reject⟩, ⟨b, 1, .reject⟩,
      ⟨.ofField "B" "f" "I", 3, .reject⟩, ⟨.ofClass "A", 2, .reject⟩]
    let ignoring := calls.map fun c => { c with policy := .ignore }
    let s : Session Nat Unit := { store := .empty, host := () }
    let found := Insertion.runAll namesakes calls (.empty .cls, s)
    found.1.targets = [b, .ofClass "A"] ∧ found.1.sequence b = [1, 2] ∧
      (Insertion.call namesakes ⟨b, 1, .reject⟩ found.1).answer found.2 =
        .ok (.error ⟨"same", .alreadyRegistered b⟩) ∧
      ignoring.map Insertion.wish = calls.map Insertion.wish ∧
      (Insertion.runAll namesakes ignoring (.empty .cls, s)).1 = found.1 := by
  intro b calls ignoring s found
  obtain ⟨fulfils, settled, same⟩ := runAll_contents namesakes .cls calls s
  have stands : found.1.sequence b = [1, 2] := by
    rw [fulfils.sequence]
    decide +kernel
  have kind : b.kind = found.1.kind := fulfils.kind.symm
  have wishes : ignoring.map Insertion.wish = calls.map Insertion.wish := rfl
  refine ⟨?_, stands, ?_, wishes, same _ _ _ wishes⟩
  · rw [fulfils.targets]
    decide +kernel
  · exact ((settled ⟨b, 1, .reject⟩).alreadyRegistered "same").2
      ⟨rfl, kind, rfl, by rw [stands]; decide⟩

end TransformRegistry
