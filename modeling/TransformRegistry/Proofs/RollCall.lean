import Mathlib.Data.List.Nodup
import TransformRegistry.Proofs.Regathering

/-!
# Every service is listed once and accounted for

A service is added unless there is one of its name, and a refused one might as well not have been
offered. Where the services are all gathered, each of them is told of once: with the number of its
transformers, or as a failure.
-/

namespace TransformRegistry

variable {I H E : Type} {U : Kind → Type}

open SessionM

/-! ## Calls one after another -/

/-- A service that was to be added, and how that was answered. -/
abbrev Addition (I H : Type) := Service I H × Except DuplicateService Unit

/-- The services that were added. -/
def added (asked : List (Addition I H)) : List (Service I H) :=
  asked.filterMap fun a =>
    match a.2 with
    | .ok () => some a.1
    | .error _ => none

theorem added_append (a b : List (Addition I H)) : added (a ++ b) = added a ++ added b :=
  List.filterMap_append

namespace Services

/-- Adds a service, or leaves the services that are there. -/
def enlist (ss : Services I H) (x : Service I H) : Except DuplicateService Unit × Services I H :=
  match ss.add x with
  | .error e => (.error e, ss)
  | .ok next => (.ok (), next)

/-- Adds services one after another, each to what the one before has left. -/
def addEach (ss : Services I H) : List (Service I H) → List (Addition I H) × Services I H
  | [] => ([], ss)
  | x :: rest => ((x, (ss.enlist x).1) :: ((ss.enlist x).2.addEach rest).1,
      ((ss.enlist x).2.addEach rest).2)

variable {ss : Services I H} {x : Service I H}

theorem addEach_append (ss : Services I H) (a b : List (Service I H)) :
    ss.addEach (a ++ b) = ((ss.addEach a).1 ++ ((ss.addEach a).2.addEach b).1,
      ((ss.addEach a).2.addEach b).2) := by
  induction a generalizing ss with
  | nil => rfl
  | cons x rest ih =>
    rw [List.cons_append, addEach, ih]
    rfl

theorem asked_addEach (ss : Services I H) (calls : List (Service I H)) :
    (ss.addEach calls).1.map (·.1) = calls := by
  induction calls generalizing ss with
  | nil => rfl
  | cons x rest ih => rw [addEach, List.map_cons, ih]

theorem addEach_split {calls : List (Service I H)} {before after : List (Addition I H)}
    {answer : Except DuplicateService Unit}
    (split : (ss.addEach calls).1 = before ++ (x, answer) :: after) :
    ∃ found, ss.addEach (before.map (·.1)) = (before, found) ∧ (found.enlist x).1 = answer ∧
      (found.enlist x).2.addEach (after.map (·.1)) = (after, (ss.addEach calls).2) := by
  have parts : calls = before.map (·.1) ++ x :: after.map (·.1) := by
    rw [← asked_addEach ss calls, split, List.map_append, List.map_cons]
  have length : (ss.addEach (before.map (·.1))).1.length = before.length := by
    rw [← List.length_map (·.1), asked_addEach, List.length_map]
  rw [parts, addEach_append] at split ⊢
  obtain ⟨earlier, later⟩ := List.append_inj split length
  obtain ⟨here, rest⟩ := List.cons.inj later
  exact ⟨_, Prod.ext earlier rfl, congrArg Prod.snd here, Prod.ext rest rfl⟩

/-! ## The list of services -/

theorem enlist_of_mem (taken : x.name ∈ ss.names) : ss.enlist x = (.error ⟨x.name⟩, ss) := by
  unfold enlist add
  rw [if_pos ((ss.inStep _).2 taken)]

theorem enlist_of_notMem (new : x.name ∉ ss.names) : ss.enlist x = (.ok (), ss.push x) := by
  unfold enlist add
  rw [if_neg (mt (ss.inStep _).1 new)]

theorem names_push (ss : Services I H) (x : Service I H) :
    (ss.push x).names = ss.names ++ [x.name] := by
  simp [names, push]

theorem list_enlist (ss : Services I H) (x : Service I H) :
    (ss.enlist x).2.list = ss.list ++ added [(x, (ss.enlist x).1)] := by
  by_cases taken : x.name ∈ ss.names
  · rw [enlist_of_mem taken]
    exact (List.append_nil _).symm
  · rw [enlist_of_notMem taken]
    rfl

theorem list_addEach (ss : Services I H) (calls : List (Service I H)) :
    (ss.addEach calls).2.list = ss.list ++ added (ss.addEach calls).1 := by
  induction calls generalizing ss with
  | nil => exact (List.append_nil _).symm
  | cons x rest ih =>
    rw [addEach, ih, list_enlist, List.append_assoc, ← added_append]
    rfl

theorem names_addEach_empty (calls : List (Service I H)) :
    (empty.addEach calls).2.names = (added (empty.addEach calls).1).map (·.name) := by
  rw [names, list_addEach]
  rfl

/-- No name is there twice, neither in the list nor in the set. -/
structure Distinct (ss : Services I H) : Prop where
  names : ss.names.Nodup
  seen : ss.seen.Nodup

theorem Distinct.enlist (distinct : ss.Distinct) (x : Service I H) :
    (ss.enlist x).2.Distinct := by
  by_cases taken : x.name ∈ ss.names
  · rw [enlist_of_mem taken]
    exact distinct
  · rw [enlist_of_notMem taken]
    constructor
    · rw [names_push]
      exact List.nodup_append_comm.1 (List.nodup_cons.2 ⟨taken, distinct.names⟩)
    · exact distinct.seen.insert

theorem Distinct.addEach (distinct : ss.Distinct) (calls : List (Service I H)) :
    (ss.addEach calls).2.Distinct := by
  induction calls generalizing ss with
  | nil => exact distinct
  | cons x rest ih => exact ih (distinct.enlist x)

theorem distinct_addEach_empty (calls : List (Service I H)) :
    (empty.addEach calls).2.Distinct := by
  have nothing : (empty : Services I H).Distinct := ⟨List.nodup_nil, List.nodup_nil⟩
  exact nothing.addEach calls

theorem Distinct.perm (distinct : ss.Distinct) : ss.seen.Perm ss.names :=
  (List.perm_ext_iff_of_nodup distinct.seen distinct.names).2 ss.inStep

end Services

/-- How calls are answered, and which services are there in the end. -/
structure Enlisted (calls : List (Service I H)) (asked : List (Addition I H))
    (ss : Services I H) : Prop where
  calls : asked.map (·.1) = calls
  answers : ∀ {before x answer after}, asked = before ++ (x, answer) :: after →
    answer = if x.name ∈ (added before).map (·.name) then .error ⟨x.name⟩ else .ok ()
  /-- Without a call that was refused, all others are answered as they were. -/
  unmade : ∀ {before x e after}, asked = before ++ (x, .error e) :: after →
    Services.empty.addEach ((before ++ after).map (·.1)) = (before ++ after, ss)
  names : ss.names = (added asked).map (·.name)
  once : ss.names.Nodup
  size : ss.names.length = ss.size

theorem enlisted_addEach (calls : List (Service I H)) :
    Enlisted calls (Services.empty.addEach calls).1 (Services.empty.addEach calls).2 where
  calls := Services.asked_addEach .empty calls
  answers := by
    intro before x answer after split
    obtain ⟨ss, earlier, rfl, -⟩ := Services.addEach_split split
    have names := Services.names_addEach_empty (before.map (·.1))
    rw [earlier] at names
    rw [← names]
    split
    · next taken => rw [Services.enlist_of_mem taken]
    · next new => rw [Services.enlist_of_notMem new]
  unmade := by
    intro before x e after split
    obtain ⟨ss, earlier, refused, later⟩ := Services.addEach_split split
    by_cases taken : x.name ∈ ss.names
    · rw [Services.enlist_of_mem taken] at later
      rw [List.map_append, Services.addEach_append, earlier, later]
    · rw [Services.enlist_of_notMem taken] at refused
      cases refused
  names := Services.names_addEach_empty calls
  once := (Services.distinct_addEach_empty calls).names
  size := List.length_map _

/-! ## Two lists out of one -/

/-- A list dealt out to two others, each of which keeps the order. -/
inductive Dealt {α : Type} : List α → List α → List α → Prop
  | nil : Dealt [] [] []
  | left {a : α} {l r all : List α} : Dealt l r all → Dealt (a :: l) r (a :: all)
  | right {a : α} {l r all : List α} : Dealt l r all → Dealt l (a :: r) (a :: all)

namespace Dealt

variable {α : Type} {l r all : List α}

theorem perm (dealt : Dealt l r all) : (l ++ r).Perm all := by
  induction dealt with
  | nil => exact .nil
  | left _ ih => exact ih.cons _
  | right _ ih => exact List.perm_middle.trans (ih.cons _)

theorem sublist_left (dealt : Dealt l r all) : l.Sublist all := by
  induction dealt with
  | nil => exact .slnil
  | left _ ih => exact ih.cons_cons _
  | right _ ih => exact ih.cons _

theorem sublist_right (dealt : Dealt l r all) : r.Sublist all := by
  induction dealt with
  | nil => exact .slnil
  | left _ ih => exact ih.cons _
  | right _ ih => exact ih.cons_cons _

theorem right_eq_nil_iff (dealt : Dealt l r all) : r = [] ↔ l = all := by
  have length := dealt.perm.length_eq
  rw [List.length_append] at length
  constructor
  · rintro rfl
    exact dealt.sublist_left.eq_of_length (by simpa using length)
  · rintro rfl
    exact List.length_eq_zero_iff.1 (by omega)

end Dealt

/-! ## Gathering -/

variable [DecidableEq I] {r : Roster I H E U} {s t : Session I H}

theorem Service.service_of_unavailable {x : Service I H} {e : ServiceError}
    (ran : x.gather r s = .ok (.error (.unavailable e)) t) : e.service = x.name := by
  obtain ⟨contribution, u, contributed, ran⟩ := bind_eq_ok ran
  cases contribution with
  | error cause =>
    cases ran
    obtain ⟨outcome, v, -, contributed⟩ := bind_eq_ok contributed
    rcases outcome with crash | reason | declared
    · cases contributed
      rfl
    · cases contributed
      rfl
    · cases contributed
  | ok declared =>
    obtain ⟨registered, v, -, ran⟩ := bind_eq_ok ran
    cases registered with
    | error => cases ran
    | ok => cases ran

/-- Every service is in one of the two lists, in its turn. -/
theorem dealt_of_gatherEach {services : List (Service I H)} {g out : Harvest}
    (ran : gatherEach r g services s = .ok (.ok out) t) :
    ∃ more, out = g.append more ∧
      Dealt (more.gathered.map (·.1)) (more.failures.map (·.service)) (services.map (·.name)) := by
  induction services generalizing g s with
  | nil =>
    cases ran
    exact ⟨{}, by simp [Harvest.append], .nil⟩
  | cons x rest ih =>
    obtain ⟨result, u, gathered, ran⟩ := bind_eq_ok ran
    rcases result with (e | ⟨contributor, cause⟩) | count
    · obtain ⟨-, v, -, ran⟩ := bind_eq_ok ran
      obtain ⟨more, rfl, dealt⟩ := ih ran
      refine ⟨⟨more.gathered, e :: more.failures⟩, by simp [Harvest.append], ?_⟩
      rw [List.map_cons, List.map_cons, Service.service_of_unavailable gathered]
      exact dealt.right
    · cases ran
    · obtain ⟨more, rfl, dealt⟩ := ih ran
      exact ⟨⟨(x.name, count) :: more.gathered, more.failures⟩, by simp [Harvest.append], dealt.left⟩

theorem Services.gatherEach_of_gather {ss : Services I H} {g : Harvest}
    (gathered : (ss.gather r).answer s = .ok (.ok g)) :
    ∃ u, gatherEach r {} ss.list s = .ok (.ok g) u := by
  obtain ⟨result, u, ran, rest⟩ := bind_eq_ok (eq_ok_of_answer gathered)
  cases result with
  | error => cases rest
  | ok out =>
    obtain ⟨v, whole, -⟩ := gather_of_ok ss ran
    rw [answer_of_ok whole] at gathered
    cases gathered
    exact ⟨u, ran⟩

/-- Each of the names is told of once: as gathered, or as a failure. -/
structure Harvest.Covers (g : Harvest) (names : List String) : Prop where
  shared : (g.gathered.map (·.1) ++ g.failures.map (·.service)).Perm names
  once : (g.gathered.map (·.1) ++ g.failures.map (·.service)).Nodup
  gathered : (g.gathered.map (·.1)).Sublist names
  failures : (g.failures.map (·.service)).Sublist names
  complete : g.isComplete = true ↔ g.gathered.map (·.1) = names

theorem Dealt.covers {names : List String} {g : Harvest}
    (dealt : Dealt (g.gathered.map (·.1)) (g.failures.map (·.service)) names)
    (distinct : names.Nodup) : g.Covers names where
  shared := dealt.perm
  once := dealt.perm.nodup_iff.2 distinct
  gathered := dealt.sublist_left
  failures := dealt.sublist_right
  complete := by
    rw [← dealt.right_eq_nil_iff, List.map_eq_nil_iff, Harvest.isComplete, List.isEmpty_iff]

/-- However services are added, those whose names are new are there in the end, each with its name
once in the set of names, and a harvest of them accounts for each. -/
theorem roll_call (r : Roster I H E U) (calls : List (Service I H)) :
    let run := Services.empty.addEach calls
    Enlisted calls run.1 run.2 ∧ run.2.seen.Perm run.2.names ∧
      ∀ s g, (run.2.gather r).answer s = .ok (.ok g) → g.Covers run.2.names := by
  intro run
  have distinct := Services.distinct_addEach_empty calls
  refine ⟨enlisted_addEach calls, distinct.perm, fun s g gathered => ?_⟩
  obtain ⟨u, ran⟩ := Services.gatherEach_of_gather gathered
  obtain ⟨more, rfl, dealt⟩ := dealt_of_gatherEach ran
  exact dealt.covers distinct.names

/-- One name comes twice, and one service of three fails. -/
theorem roll_call_twice :
    let calls : List (Service Nat Unit) := [⟨"a", return .ok [⟨.cls, 1⟩]⟩,
      ⟨"down", return .error "no reason"⟩, ⟨"a", return .ok []⟩, ⟨"b", return .ok [⟨.cls, 2⟩]⟩]
    let run := Services.empty.addEach calls
    let s : Session Nat Unit := { store := .empty, host := () }
    let g : Harvest := ⟨[("a", 1), ("b", 1)], [⟨"down", .failed "no reason"⟩]⟩
    run.1.map (·.2) = [.ok (), .ok (), .error ⟨"a"⟩, .ok ()] ∧
      run.2.names = ["a", "down", "b"] ∧ (run.2.gather twoClasses).answer s = .ok (.ok g) ∧
      g.Covers ["a", "down", "b"] := by
  intro calls run s g
  have gathered : (run.2.gather twoClasses).answer s = .ok (.ok g) := by decide +kernel
  obtain ⟨-, -, covers⟩ := roll_call twoClasses calls
  exact ⟨by decide +kernel, by decide +kernel, gathered, covers s g gathered⟩

end TransformRegistry
