import TransformRegistry.Text.Segments
import TransformRegistry.Proofs.Turns

/-!
# The shape of a history

What the turns of an attempt come to at each place: who was asked is done with, or was put off and
asked again, after all others. Only a failure leaves it otherwise, and it comes last.
-/

namespace TransformRegistry

variable {I H E U : Type}

open SessionM

/-! ## Outcomes at a place -/

/-- What came of the turns at one place, in order. -/
def outcomesAt (place : Nat) (turns : List Turn) : List Outcome :=
  (turns.filter (·.place = place)).map (·.outcome)

theorem outcomesAt_append (place : Nat) (first next : List Turn) :
    outcomesAt place (first ++ next) = outcomesAt place first ++ outcomesAt place next := by
  simp [outcomesAt]

theorem outcomesAt_of_not_mem {place : Nat} {turns : List Turn}
    (h : place ∉ turns.map (·.place)) : outcomesAt place turns = [] := by
  unfold outcomesAt
  rw [List.map_eq_nil_iff, List.filter_eq_nil_iff]
  intro t ht here
  exact h (List.mem_map.2 ⟨t, ht, by simpa using here⟩)

theorem outcomesAt_of_mem {turns : List Turn} (once : (turns.map (·.place)).Nodup) {t : Turn}
    (ht : t ∈ turns) : outcomesAt t.place turns = [t.outcome] := by
  induction turns with
  | nil => cases ht
  | cons u rest ih =>
    rw [List.map_cons, List.nodup_cons] at once
    obtain ⟨new, once⟩ := once
    have split := outcomesAt_append t.place [u] rest
    rw [List.singleton_append] at split
    rw [split]
    rcases List.mem_cons.1 ht with rfl | later
    · rw [outcomesAt_of_not_mem new]
      simp [outcomesAt]
    · have other : u.place ≠ t.place := fun same =>
        new (same ▸ List.mem_map.2 ⟨t, later, rfl⟩)
      rw [ih once later]
      simp [outcomesAt, other]

/-- What can have come of a transformer that is done with. -/
def settledOutcomes : List (List Outcome) :=
  [[.applied], [.declined], [.deferred, .applied], [.deferred, .declined],
    [.deferred, .deferredTwice]]

/-- What can have come of a transformer when the attempt broke off. -/
def brokenOutcomes : List (List Outcome) := [[.failed], [.deferred, .failed], [.deferred], []]

/-- The transformer is done with, and the attempt goes on. -/
def Outcome.settles : Outcome → Bool
  | .applied => true
  | .declined => true
  | .deferredTwice => true
  | _ => false

namespace Pass

variable {o : Outcome}

theorem mem_outcomes_first :
    o ∈ Pass.first.outcomes ↔ o = .applied ∨ o = .declined ∨ o = .deferred := by
  simp [outcomes]

theorem mem_outcomes_second :
    o ∈ Pass.second.outcomes ↔ o = .applied ∨ o = .declined ∨ o = .deferredTwice := by
  simp [outcomes]

theorem ne_failed {pass : Pass} (h : o ∈ pass.outcomes) : o ≠ .failed := by
  rintro rfl
  cases pass <;> simp [outcomes] at h

theorem settles {pass : Pass} (h : o ∈ pass.outcomes) (notPut : pass = .first → o ≠ .deferred) :
    o.settles = true := by
  cases pass with
  | first =>
    rcases mem_outcomes_first.1 h with rfl | rfl | rfl
    · rfl
    · rfl
    · exact absurd rfl (notPut rfl)
  | second => rcases mem_outcomes_second.1 h with rfl | rfl | rfl <;> rfl

end Pass

/-! ## One round -/

namespace Round

variable {pass : Pass} {places : List Nat} {turns : List Turn} {failed? : Option String}

theorem pass_eq (h : Round pass places turns failed?) : ∀ t ∈ turns, t.pass = pass := by
  induction h with
  | done => exact nofun
  | next _ _ ih => exact List.forall_mem_cons.2 ⟨rfl, ih⟩
  | stop => exact List.forall_mem_cons.2 ⟨rfl, nofun⟩

theorem places_prefix (h : Round pass places turns failed?) :
    turns.map (·.place) <+: places := by
  induction h with
  | done => exact List.prefix_rfl
  | next _ _ ih => exact (List.prefix_cons_inj _).2 ih
  | stop place rest label => exact ⟨rest, rfl⟩

theorem ends (h : Round pass places turns failed?) :
    ∃ before, (∀ t ∈ before, t.outcome ∈ pass.outcomes) ∧
      match failed? with
      | none => turns = before ∧ turns.map (·.place) = places
      | some label => ∃ place, turns = before ++ [⟨place, pass, ⟨label, .failed⟩⟩] := by
  induction h with
  | done => exact ⟨[], nofun, rfl, rfl⟩
  | @next place _ _ failed? entry goesOn _ ih =>
    obtain ⟨before, ok, rest⟩ := ih
    refine ⟨⟨place, pass, entry⟩ :: before, List.forall_mem_cons.2 ⟨goesOn, ok⟩, ?_⟩
    cases failed? with
    | none => exact ⟨by rw [rest.1], by rw [List.map_cons, rest.2]⟩
    | some label =>
      obtain ⟨last, rfl⟩ := rest
      exact ⟨last, rfl⟩
  | stop place rest label => exact ⟨[], nofun, place, rfl⟩

theorem places_eq (h : Round pass places turns none) : turns.map (·.place) = places := by
  obtain ⟨_, _, _, same⟩ := h.ends
  exact same

theorem outcome_mem (h : Round pass places turns none) : ∀ t ∈ turns, t.outcome ∈ pass.outcomes := by
  obtain ⟨before, ok, rfl, _⟩ := h.ends
  exact ok

theorem outcomesAt_cases (h : Round pass places turns failed?) (once : places.Nodup) {place : Nat}
    (hp : place ∈ places) :
    (∃ o ∈ pass.outcomes, outcomesAt place turns = [o]) ∨
      failed?.isSome ∧ (outcomesAt place turns = [.failed] ∨ outcomesAt place turns = []) := by
  have turnsOnce : (turns.map (·.place)).Nodup := once.sublist h.places_prefix.sublist
  by_cases reached : place ∈ turns.map (·.place)
  · obtain ⟨t, ht, rfl⟩ := List.mem_map.1 reached
    rw [outcomesAt_of_mem turnsOnce ht]
    obtain ⟨before, ok, last⟩ := h.ends
    cases failed? with
    | none => exact .inl ⟨_, ok t (last.1 ▸ ht), rfl⟩
    | some label =>
      obtain ⟨place, rfl⟩ := last
      rcases List.mem_append.1 ht with early | final
      · exact .inl ⟨_, ok t early, rfl⟩
      · rw [List.mem_singleton.1 final]
        exact .inr ⟨rfl, .inl rfl⟩
  · rw [outcomesAt_of_not_mem reached]
    cases failed? with
    | none => exact absurd (h.places_eq ▸ hp) reached
    | some label => exact .inr ⟨rfl, .inr rfl⟩

end Round

/-! ## Both rounds -/

theorem mem_deferredPlaces {turns : List Turn} {place : Nat} :
    place ∈ deferredPlaces turns ↔ ∃ t ∈ turns, t.outcome = .deferred ∧ t.place = place := by
  simp [deferredPlaces, and_assoc]

theorem mem_deferredPlaces_iff {turns : List Turn} {place : Nat} :
    place ∈ deferredPlaces turns ↔ .deferred ∈ outcomesAt place turns := by
  simp only [mem_deferredPlaces, outcomesAt, List.mem_map, List.mem_filter, decide_eq_true_eq]
  constructor
  · rintro ⟨t, ht, deferred, here⟩
    exact ⟨t, ⟨ht, here⟩, deferred⟩
  · rintro ⟨t, ⟨ht, here⟩, deferred⟩
    exact ⟨t, ht, deferred, here⟩

theorem deferredPlaces_append (first next : List Turn) :
    deferredPlaces (first ++ next) = deferredPlaces first ++ deferredPlaces next := by
  simp [deferredPlaces]

namespace Round

variable {places : List Nat} {turns : List Turn} {failed? : Option String}

theorem deferredPlaces_second (h : Round .second places turns failed?) :
    deferredPlaces turns = [] := by
  obtain ⟨before, ok, last⟩ := h.ends
  have none : deferredPlaces before = [] := by
    unfold deferredPlaces
    rw [List.map_eq_nil_iff, List.filter_eq_nil_iff]
    intro t ht deferred
    have settled := ok t ht
    simp only [decide_eq_true_eq] at deferred
    simp [Pass.outcomes, deferred] at settled
  cases failed? with
  | none => rw [last.1, none]
  | some label =>
    obtain ⟨place, rfl⟩ := last
    rw [deferredPlaces_append, none]
    rfl

theorem deferredPlaces_sublist {pass : Pass} (h : Round pass places turns failed?) :
    (deferredPlaces turns).Sublist places :=
  (List.filter_sublist.map _).trans h.places_prefix.sublist

theorem outcome_mem_before {pass : Pass} (h : Round pass places turns failed?)
    {before after : List Turn} {t : Turn} (split : turns = before ++ t :: after) :
    ∀ u ∈ before, u.outcome ∈ pass.outcomes := by
  intro u hu
  obtain ⟨settled, ok, last⟩ := h.ends
  apply ok
  cases failed? with
  | none =>
    rw [← last.1, split]
    exact List.mem_append_left _ hu
  | some label =>
    obtain ⟨place, rfl⟩ := last
    have initial := congrArg List.dropLast split
    rw [List.dropLast_concat, List.dropLast_append_cons] at initial
    rw [initial]
    exact List.mem_append_left _ hu

end Round

namespace TwoRounds

variable {n : Nat} {turns : List Turn} {failed? : Option String}

theorem place_lt (h : TwoRounds (List.range n) turns failed?) : ∀ t ∈ turns, t.place < n := by
  have first : ∀ {asked failed?}, Round .first (List.range n) asked failed? →
      ∀ t ∈ asked, t.place < n := by
    intro asked failed? round t ht
    exact List.mem_range.1 (round.places_prefix.subset (List.mem_map.2 ⟨t, ht, rfl⟩))
  cases h with
  | broken round => exact first round
  | @both asked again _ round second =>
    intro t ht
    rcases List.mem_append.1 ht with early | late
    · exact first round t early
    · have put := second.places_prefix.subset (List.mem_map.2 ⟨t, late, rfl⟩)
      obtain ⟨u, hu, -, same⟩ := mem_deferredPlaces.1 put
      rw [← same]
      exact first round u hu

theorem outcomesAt_asked {asked : List Turn} (first : Round .first (List.range n) asked none)
    {place : Nat} (hp : place < n) :
    (place ∉ deferredPlaces asked ∧
        (outcomesAt place asked = [.applied] ∨ outcomesAt place asked = [.declined])) ∨
      place ∈ deferredPlaces asked ∧ outcomesAt place asked = [.deferred] := by
  rw [mem_deferredPlaces_iff]
  rcases first.outcomesAt_cases List.nodup_range (List.mem_range.2 hp) with ⟨o, ho, found⟩ | ⟨h, -⟩
  · rw [found]
    rcases Pass.mem_outcomes_first.1 ho with rfl | rfl | rfl <;> simp
  · cases h

theorem outcomesAt_mem (h : TwoRounds (List.range n) turns failed?) {place : Nat}
    (hp : place < n) :
    outcomesAt place turns ∈ settledOutcomes ∨
      failed?.isSome ∧ outcomesAt place turns ∈ brokenOutcomes := by
  cases h with
  | broken round =>
    rcases round.outcomesAt_cases List.nodup_range (List.mem_range.2 hp) with
      ⟨o, ho, found⟩ | ⟨-, found | found⟩
    · rw [found]
      rcases Pass.mem_outcomes_first.1 ho with rfl | rfl | rfl <;>
        simp [settledOutcomes, brokenOutcomes]
    · simp [found, brokenOutcomes]
    · simp [found, brokenOutcomes]
  | @both asked again _ first second =>
    rw [outcomesAt_append]
    rcases outcomesAt_asked first hp with ⟨notPut, settled⟩ | ⟨put, deferred⟩
    · rw [outcomesAt_of_not_mem fun late => notPut (second.places_prefix.subset late)]
      rcases settled with found | found <;> simp [found, settledOutcomes]
    · have once : (deferredPlaces asked).Nodup :=
        List.nodup_range.sublist first.deferredPlaces_sublist
      rw [deferred]
      rcases second.outcomesAt_cases once put with ⟨o, ho, found⟩ | ⟨broken, found | found⟩
      · rw [found]
        rcases Pass.mem_outcomes_second.1 ho with rfl | rfl | rfl <;> simp [settledOutcomes]
      · simp [found, broken, brokenOutcomes]
      · simp [found, broken, brokenOutcomes]

theorem failed_last {label : String} (h : TwoRounds (List.range n) turns (some label)) :
    ∃ before place pass, turns = before ++ [⟨place, pass, ⟨label, .failed⟩⟩] ∧
      ∀ t ∈ before, t.outcome ≠ .failed := by
  cases h with
  | broken round =>
    obtain ⟨before, ok, place, rfl⟩ := round.ends
    exact ⟨before, place, _, rfl, fun t ht => Pass.ne_failed (ok t ht)⟩
  | @both asked again _ first second =>
    obtain ⟨before, ok, place, rfl⟩ := second.ends
    refine ⟨asked ++ before, place, _, (List.append_assoc ..).symm, fun t ht => ?_⟩
    rcases List.mem_append.1 ht with early | late
    · exact Pass.ne_failed (first.outcome_mem t early)
    · exact Pass.ne_failed (ok t late)

theorem not_failed (h : TwoRounds (List.range n) turns none) : ∀ t ∈ turns, t.outcome ≠ .failed := by
  cases h with
  | both first second =>
    intro t ht
    rcases List.mem_append.1 ht with early | late
    · exact Pass.ne_failed (first.outcome_mem t early)
    · exact Pass.ne_failed (second.outcome_mem t late)

theorem length_eq (h : TwoRounds (List.range n) turns none) :
    turns.length = n + (deferredPlaces turns).length := by
  cases h with
  | @both asked again _ first second =>
    have askedOnce := congrArg List.length first.places_eq
    have askedAgain := congrArg List.length second.places_eq
    rw [List.length_map, List.length_range] at askedOnce
    rw [List.length_map] at askedAgain
    rw [deferredPlaces_append, second.deferredPlaces_second, List.append_nil, List.length_append,
      askedOnce, askedAgain]

theorem deferredPlaces_sublist (h : TwoRounds (List.range n) turns failed?) :
    (deferredPlaces turns).Sublist (List.range n) := by
  cases h with
  | broken round => exact round.deferredPlaces_sublist
  | both first second =>
    rw [deferredPlaces_append, second.deferredPlaces_second, List.append_nil]
    exact first.deferredPlaces_sublist

end TwoRounds

/-! ## Asked again -/

theorem Round.new {n : Nat} {pass : Pass} {turns before after : List Turn} {t : Turn}
    {failed? : Option String} (h : Round pass (List.range n) turns failed?)
    (split : turns = before ++ t :: after) : ∀ u ∈ before, u.place ≠ t.place := by
  have once : (turns.map (·.place)).Nodup :=
    (List.nodup_range (n := n)).sublist h.places_prefix.sublist
  rw [split, List.map_append, List.map_cons] at once
  have apart := (List.nodup_append.1 once).2.2
  intro u hu
  exact apart _ (List.mem_map.2 ⟨u, hu, rfl⟩) _ List.mem_cons_self

namespace TwoRounds

variable {n : Nat} {turns before after : List Turn} {t : Turn} {failed? : Option String}

theorem split_first (h : TwoRounds (List.range n) turns failed?)
    (split : turns = before ++ t :: after) (first : t.pass = .first) :
    ∃ left failed?, Round .first (List.range n) (before ++ t :: left) failed? := by
  cases h with
  | broken round =>
    subst split
    exact ⟨after, _, round⟩
  | @both asked again _ round second =>
    -- A turn of the second round has the other pass.
    have asks : t ∉ again := fun late => by
      have pass := second.pass_eq t late
      rw [first] at pass
      cases pass
    rcases Text.append_split split with ⟨left, rfl, -⟩ | ⟨done, -, rfl⟩
    · exact ⟨left, _, round⟩
    · exact absurd (by simp) asks

/-- A turn of the second pass comes after the whole first round. -/
theorem split_second (h : TwoRounds (List.range n) turns failed?)
    (split : turns = before ++ t :: after) (second : t.pass = .second) :
    ∃ asked done, before = asked ++ done ∧ Round .first (List.range n) asked none ∧
      Round .second (deferredPlaces asked) (done ++ t :: after) failed? := by
  cases h with
  | broken round =>
    have pass := round.pass_eq t (by simp [split])
    rw [second] at pass
    cases pass
  | @both asked again _ first round =>
    rcases Text.append_split split with ⟨left, rfl, -⟩ | ⟨done, rfl, rfl⟩
    · have pass := first.pass_eq t (by simp)
      rw [second] at pass
      cases pass
    · exact ⟨asked, done, rfl, first, round⟩

/-- The second pass is for those that deferred in the first. -/
theorem second_iff (h : TwoRounds (List.range n) turns failed?)
    (split : turns = before ++ t :: after) :
    t.pass = .second ↔ t.place ∈ deferredPlaces before := by
  constructor
  · intro second
    obtain ⟨asked, done, rfl, -, round⟩ := h.split_second split second
    rw [deferredPlaces_append]
    refine List.mem_append_left _ (round.places_prefix.subset ?_)
    simp
  · intro put
    obtain ⟨u, hu, -, same⟩ := mem_deferredPlaces.1 put
    cases pass : t.pass with
    | second => rfl
    | first =>
      obtain ⟨left, _, round⟩ := h.split_first split pass
      exact absurd same (round.new rfl u hu)

/-- Before someone is asked again, all are done with that did not defer, or deferred earlier. -/
theorem settled_before_second (h : TwoRounds (List.range n) turns failed?)
    (split : turns = before ++ t :: after) (second : t.pass = .second) {place : Nat}
    (hp : place < n) (earlier : place ∉ deferredPlaces turns ∨ place < t.place) :
    ∃ u ∈ before, u.place = place ∧ u.outcome.settles := by
  obtain ⟨asked, done, rfl, first, round⟩ := h.split_second split second
  have here : place ∈ asked.map (·.place) := by
    rw [first.places_eq]
    exact List.mem_range.2 hp
  obtain ⟨u, hu, rfl⟩ := List.mem_map.1 here
  by_cases deferred : u.outcome = .deferred
  · have put : u.place ∈ deferredPlaces asked := mem_deferredPlaces.2 ⟨u, hu, deferred, rfl⟩
    have less : u.place < t.place := by
      refine earlier.resolve_left fun absent => absent ?_
      rw [split, List.append_assoc, deferredPlaces_append]
      exact List.mem_append_left _ put
    -- Those after it in the second round were put off later.
    obtain ⟨rest, order⟩ := round.places_prefix
    rw [List.map_append, List.map_cons, List.append_assoc, List.cons_append] at order
    have increasing : (deferredPlaces asked).Pairwise (· < ·) :=
      List.pairwise_lt_range.sublist first.deferredPlaces_sublist
    rw [← order] at put increasing
    obtain ⟨-, later, -⟩ := List.pairwise_append.1 increasing
    rcases List.mem_append.1 put with again | notYet
    · obtain ⟨v, hv, same⟩ := List.mem_map.1 again
      have outcome := round.outcome_mem_before rfl v hv
      exact ⟨v, List.mem_append_right _ hv, same, Pass.settles outcome nofun⟩
    · rcases List.mem_cons.1 notYet with same | behind
      · omega
      · have more := List.rel_of_pairwise_cons later behind
        omega
  · have outcome := first.outcome_mem u hu
    exact ⟨u, List.mem_append_left _ hu, rfl, Pass.settles outcome fun _ => deferred⟩

end TwoRounds

/-! ## The history of an attempt -/

/-- What is so of the turns that an attempt takes with a number of transformers. -/
structure WellTurned (n : Nat) (turns : List Turn) (failed : Bool) : Prop where
  place_lt : ∀ t ∈ turns, t.place < n
  /-- Each transformer is done with, unless the attempt has failed. -/
  outcomes : ∀ place < n, outcomesAt place turns ∈ settledOutcomes ∨
    failed = true ∧ outcomesAt place turns ∈ brokenOutcomes
  failed_last : failed = true → ∃ before last, turns = before ++ [last] ∧
    last.outcome = .failed ∧ ∀ t ∈ before, t.outcome ≠ .failed
  not_failed : failed = false → ∀ t ∈ turns, t.outcome ≠ .failed
  length : failed = false →
    turns.length = n + (deferredPlaces turns).length ∧ turns.length ≤ 2 * n
  /-- Places are put off in order. -/
  deferred : (deferredPlaces turns).Pairwise (· < ·)
  /-- The second pass is for those that deferred before. -/
  second : ∀ before t after, turns = before ++ t :: after →
    (t.pass = .second ↔ t.place ∈ deferredPlaces before)
  /-- It begins when all others are done with, and has them in the order in which they deferred. -/
  settled : ∀ before t after, turns = before ++ t :: after → t.pass = .second →
    ∀ place < n, place ∉ deferredPlaces turns ∨ place < t.place →
      ∃ u ∈ before, u.place = place ∧ u.outcome.settles = true

theorem TwoRounds.wellTurned {n : Nat} {turns : List Turn} {failed? : Option String}
    (h : TwoRounds (List.range n) turns failed?) : WellTurned n turns failed?.isSome where
  place_lt := h.place_lt
  outcomes _ hp := h.outcomesAt_mem hp
  failed_last failed := by
    obtain ⟨label, rfl⟩ := Option.isSome_iff_exists.1 failed
    obtain ⟨before, place, pass, split, sound⟩ := h.failed_last
    exact ⟨before, _, split, rfl, sound⟩
  not_failed sound := by
    rw [Option.isSome_eq_false_iff, Option.isNone_iff_eq_none] at sound
    subst sound
    exact h.not_failed
  length sound := by
    rw [Option.isSome_eq_false_iff, Option.isNone_iff_eq_none] at sound
    subst sound
    have deferred := h.deferredPlaces_sublist.length_le
    have length := h.length_eq
    rw [List.length_range] at deferred
    exact ⟨length, by omega⟩
  deferred := List.pairwise_lt_range.sublist h.deferredPlaces_sublist
  second _ _ _ split := h.second_iff split
  settled _ _ _ split second _ hp earlier := h.settled_before_second split second hp earlier

/-- Whether there is a failure, and not a unit. -/
def failure {α : Type} : Except TransformError α → Bool
  | .ok _ => false
  | .error _ => true

theorem EndsWith.failure_eq {α : Type} {target : Target} {result : Except TransformError α}
    {failed? : Option String} (h : EndsWith target result failed?) :
    failure result = failed?.isSome := by
  cases result <;> cases failed? <;> first | rfl | exact h.elim

/-- An attempt that ends has taken turns that are well ordered. Their entries are its history. In
each turn a transformer is asked once and, where the outcome is that it applied or failed, applied
once. -/
theorem attempt_in_turns (sequence : List (Transformer I H E U)) (unit : U) (target : Target)
    (load : LoadContext E) (s : Session I H) (result : Except TransformError U)
    (ended : (attempt sequence unit target load).answer s = .ok result) :
    ∃ turns : List Turn,
      let queue := askQueue target load unit [] (sequence.map (·, .first))
      queue.answer s = .ok (result, turns.map (·.entry)) ∧
      (attempt sequence unit target load).after s =
        (record load.trail? target (turns.map (·.entry))).after (queue.after s) ∧
      ((attempt (writingPlaces sequence) unit target load).noted s).map Call.shown =
        turnCalls target load [] turns ∧
      WellTurned sequence.length turns (failure result) := by
  obtain ⟨turns, failed?, asked, calls, rounds, ends⟩ := attempt_turns ended
  have ordered := rounds.wellTurned
  rw [← ends.failure_eq] at ordered
  exact ⟨turns, asked, after_attempt asked, calls, ordered⟩

/-- Votes by the pass, and comes to the same whenever it is applied. -/
def fickle (label : String) (first second : Vote) (result : Except String Unit) :
    Transformer Unit Unit Unit Unit where
  label := return label
  targets := return []
  vote ballot := return if ballot.pass = .first then first else second
  transform _ _ := return result

/-- Two of one label defer. The first does so again, and the other fails. -/
theorem attempt_in_turns_failing :
    let sequence := [fickle "a" .defer .defer (.ok ()), fickle "b" .yes .no (.ok ()),
      fickle "a" .defer .yes (.error "broken")]
    let s : Session Unit Unit := { store := .empty, host := () }
    (attempt sequence () (.ofClass "A") {}).answer s =
        .ok (.error (.failed (.ofClass "A") "a" "broken")) ∧
      ∃ turns : List Turn, turns.map (·.entry) =
          [⟨"a", .deferred⟩, ⟨"b", .applied⟩, ⟨"a", .deferred⟩, ⟨"a", .deferredTwice⟩,
            ⟨"a", .failed⟩] ∧
        WellTurned 3 turns true := by
  intro sequence s
  have ended : (attempt sequence () (.ofClass "A") {}).answer s =
      .ok (.error (.failed (.ofClass "A") "a" "broken")) := by decide +kernel
  obtain ⟨turns, asked, -, -, ordered⟩ :=
    attempt_in_turns sequence () (.ofClass "A") {} s _ ended
  have told : (askQueue (.ofClass "A") {} () [] (sequence.map (·, .first))).answer s =
      .ok (.error (.failed (.ofClass "A") "a" "broken"), [⟨"a", .deferred⟩, ⟨"b", .applied⟩,
        ⟨"a", .deferred⟩, ⟨"a", .deferredTwice⟩, ⟨"a", .failed⟩]) := by decide +kernel
  rw [told, Except.ok.injEq, Prod.mk.injEq] at asked
  exact ⟨ended, turns, asked.2.symm, ordered⟩

end TransformRegistry
