import TransformRegistry.Proofs.Consistency
import TransformRegistry.Proofs.PlainUnits

/-!
# Loading a class member by member

A load pins one snapshot, looks nothing up for a class that no target belongs to, and takes the
members of a class out and puts them back in one go. It comes to the same as handing each member to
the store on its own, in order, and putting what comes back in its place, and then the class.
-/

namespace TransformRegistry

variable {I H E : Type} {U : Kind → Type}

open SessionM

/-! ## Member by member -/

/-- Hands the member at a place to the store and puts what comes back there. -/
def transformAt (r : Roster I H E U) (load : LoadContext E) (k : Kind) (targetOf : U k → Target)
    (members : List (U k)) (place : Nat) :
    SessionM I H (Except TransformError (List (U k))) := do
  match members[place]? with
  | none => return .ok members
  | some member =>
    match ← transformUnit r k member (targetOf member) load with
    | .error e => return .error e
    | .ok member => return .ok (members.set place member)

/-- Does so for places in order, up to the first error. -/
def transformPlaces (r : Roster I H E U) (load : LoadContext E) (k : Kind)
    (targetOf : U k → Target) (members : List (U k)) :
    List Nat → SessionM I H (Except TransformError (List (U k)))
  | [] => return .ok members
  | place :: rest => do
    match ← transformAt r load k targetOf members place with
    | .error e => return .error e
    | .ok members => transformPlaces r load k targetOf members rest

theorem transformUnit_eq_attempt (r : Roster I H E U) {k : Kind} {unit : U k} {target : Target}
    {load : LoadContext E} {s : Session I H} (kind : target.kind = k) :
    transformUnit r k unit target load s =
      attempt (s.store.snapshot.transformers r k target) unit target load s := by
  unfold transformUnit
  rw [if_neg (by simp [kind])]
  rfl

/-- The walk over places is the walk over what is left of the members. -/
theorem transformPlaces_eq (r : Roster I H E U) (hr : r.AppliesUnder unchanged)
    (load : LoadContext E) (k : Kind) (targetOf : U k → Target)
    (kind : ∀ member, (targetOf member).kind = k) (done rest : List (U k)) (s : Session I H) :
    transformPlaces r load k targetOf (done ++ rest) (List.range' done.length rest.length) s =
      (Except.map (done ++ ·) <$>
        transformMembers r s.store.snapshot load k targetOf rest) s := by
  induction rest generalizing done s with
  | nil => simp [transformPlaces, transformMembers, Except.map]
  | cons member rest ih =>
    have here : (done ++ member :: rest)[done.length]? = some member := by simp
    rw [List.length_cons, List.range'_succ, transformPlaces, transformMembers, transformAt, here]
    simp only [bind_apply, map_apply, transformUnit_eq_attempt r (kind member)]
    cases ran : attempt (s.store.snapshot.transformers r k (targetOf member)) member
        (targetOf member) load s with
    | error c t => rfl
    | ok result t =>
      have kept := store_eq_of_ok (attempt_transformers_obeys hr) ran
      cases result with
      | error e => rfl
      | ok next =>
        -- One more is done, and the store that the next member is handed to is still the same.
        have placed : (done ++ member :: rest).set done.length next = (done ++ [next]) ++ rest := by
          simp
        have grown : (done ++ [next]).length = done.length + 1 := by simp
        have ih := ih (done ++ [next]) t
        rw [grown, kept] at ih
        simp only [pure_apply, placed, ih, map_apply, bind_apply]
        cases transformMembers r s.store.snapshot load k targetOf rest t with
        | error c u => rfl
        | ok result u =>
          cases result with
          | error e => rfl
          | ok more => simp [Except.map]

theorem transformPlaces_all (r : Roster I H E U) (hr : r.AppliesUnder unchanged)
    (load : LoadContext E) (k : Kind) (targetOf : U k → Target)
    (kind : ∀ member, (targetOf member).kind = k) (members : List (U k)) (s : Session I H) :
    transformPlaces r load k targetOf members (List.range members.length) s =
      transformMembers r s.store.snapshot load k targetOf members s := by
  have walk := transformPlaces_eq r hr load k targetOf kind [] members s
  rw [List.nil_append, List.length_nil, ← List.range_eq_range'] at walk
  rw [walk, map_apply]
  cases transformMembers r s.store.snapshot load k targetOf members s with
  | error c t => rfl
  | ok result t => cases result <;> rfl

/-! ## Classes that no target belongs to -/

theorem transformMembers_of_none {r : Roster I H E U} {s : Snapshot I} {load : LoadContext E}
    {k : Kind} (targetOf : U k → Target) (none : ∀ member, s.sequence k (targetOf member) = [])
    (members : List (U k)) :
    transformMembers r s load k targetOf members = pure (.ok members) := by
  induction members with
  | nil => rfl
  | cons member rest ih =>
    rw [transformMembers, ih]
    simp [Snapshot.transformers, none, attempt]

theorem sequence_of_untouched {s : Snapshot I} (hs : s.Consistent) {owner : ClassName}
    (untouched : s.touchesClass owner = false) (k : Kind) {t : Target} (ht : t.owner = owner) :
    s.sequence k t = [] := by
  by_cases kind : t.kind = k
  swap
  · exact hs.sequence_of_kind_ne kind
  subst kind
  by_cases targeted : s.isTargeted t = true
  · have touched := hs.touchesClass_iff.2 ⟨t, targeted, ht⟩
    rw [untouched] at touched
    cases touched
  · rw [hs.isTargeted_iff_handlesFor, not_not, Snapshot.handlesFor, List.map_eq_nil_iff] at targeted
    exact targeted

/-! ## Loading -/

variable [ClassShape U]

/-- Hands every field to the store, then every method, then the class. -/
def loadMemberwise (r : Roster I H E U) (cls : U .cls) (load : LoadContext E) :
    SessionM I H (Except TransformError (U .cls)) := do
  let owner := ClassName.ofText (ClassShape.name cls)
  let fields := ClassShape.fields cls
  match ← transformPlaces r load .field (fieldTarget owner) fields (List.range fields.length) with
  | .error e => return .error e
  | .ok fields =>
    let cls := ClassShape.setFields cls fields
    let methods := ClassShape.methods cls
    match ← transformPlaces r load .method (methodTarget owner) methods
        (List.range methods.length) with
    | .error e => return .error e
    | .ok methods =>
      transformUnit r .cls (ClassShape.setMethods cls methods) (.cls owner) load

theorem loadMemberwise_of_untouched {r : Roster I H E U} (hr : r.AppliesUnder unchanged)
    {cls : U .cls} {load : LoadContext E} {s : Session I H} (hs : s.store.snapshot.Consistent)
    (untouched : s.store.snapshot.touchesClass (.ofText (ClassShape.name cls)) = false) :
    loadMemberwise r cls load s = .ok (.ok cls) s := by
  unfold loadMemberwise
  generalize ClassName.ofText (ClassShape.name cls) = owner at untouched ⊢
  have none : ∀ k (t : Target), t.owner = owner → s.store.snapshot.sequence k t = [] :=
    fun k t ht => sequence_of_untouched hs untouched k ht
  have fields : ∀ fs, transformPlaces r load .field (fieldTarget owner) fs (List.range fs.length) s =
      .ok (.ok fs) s := by
    intro fs
    rw [transformPlaces_all r hr load .field _ (fun _ => rfl),
      transformMembers_of_none _ fun field => none .field (fieldTarget owner field) rfl]
    rfl
  have methods : ∀ ms, transformPlaces r load .method (methodTarget owner) ms
      (List.range ms.length) s = .ok (.ok ms) s := by
    intro ms
    rw [transformPlaces_all r hr load .method _ (fun _ => rfl),
      transformMembers_of_none _ fun method => none .method (methodTarget owner method) rfl]
    rfl
  have itself : ∀ unit, transformUnit r .cls unit (.cls owner) load s = .ok (.ok unit) s := by
    intro unit
    have kind : (Target.cls owner).kind = .cls := rfl
    rw [transformUnit_eq_attempt r kind, Snapshot.transformers, none .cls (.cls owner) rfl]
    rfl
  simp only [bind_apply, fields, methods, itself, ClassShape.setFields_fields,
    ClassShape.setMethods_methods]

theorem noted_of_untouched {r : Roster I H E U} (hr : r.AppliesUnder unchanged) {cls : U .cls}
    {load : LoadContext E} {s : Session I H} (hs : s.store.snapshot.Consistent)
    (untouched : s.store.snapshot.touchesClass (.ofText (ClassShape.name cls)) = false) :
    (loadMemberwise r.writing cls load).noted s = [] := by
  unfold noted
  rw [after_of_ok (loadMemberwise_of_untouched hr.writing hs untouched)]
  rfl

/-- What is reported at the end of a load that went through. -/
def announce (touched : Bool) (owner : ClassName) :
    Except TransformError (U .cls) → SessionM I H Unit
  | .ok _ => if touched then report (.classComplete owner) else return
  | .error _ => return

theorem loadClass_of_touched {r : Roster I H E U} (hr : r.AppliesUnder unchanged)
    {cls : U .cls} {load : LoadContext E} {s : Session I H}
    (touched : s.store.snapshot.touchesClass (.ofText (ClassShape.name cls)) = true) :
    loadClass r cls load s = (do
      let result ← loadMemberwise r cls load
      announce true (.ofText (ClassShape.name cls)) result
      return result) s := by
  unfold loadClass loadMemberwise
  generalize ClassName.ofText (ClassShape.name cls) = owner at touched ⊢
  simp only [bind_apply, getStore_apply, Snapshot.needsClass_text, touched, Bool.not_true,
    Bool.false_eq_true, if_false,
    transformPlaces_all r hr load .field (fieldTarget owner) (fun _ => rfl)]
  -- The store is the same for the methods and for the class as it was for the fields.
  cases ranFields : transformMembers r s.store.snapshot load .field (fieldTarget owner)
      (ClassShape.fields cls) s with
  | error c t => rfl
  | ok result t =>
    have keptFields := store_eq_of_ok (transformMembers_obeys hr) ranFields
    cases result with
    | error e => rfl
    | ok fields =>
      simp only [bind_apply,
        transformPlaces_all r hr load .method (methodTarget owner) (fun _ => rfl), keptFields]
      cases ranMethods : transformMembers r s.store.snapshot load .method (methodTarget owner)
          (ClassShape.methods (ClassShape.setFields cls fields)) t with
      | error c u => rfl
      | ok result u =>
        have keptMethods := (store_eq_of_ok (transformMembers_obeys hr) ranMethods).trans keptFields
        cases result with
        | error e => rfl
        | ok methods =>
          have kind : (Target.cls owner).kind = .cls := rfl
          simp only [bind_apply, transformUnit_eq_attempt r kind, keptMethods]
          cases attempt (s.store.snapshot.transformers r .cls (.cls owner))
              (ClassShape.setMethods (ClassShape.setFields cls fields) methods) (.cls owner) load u with
          | error c v => rfl
          | ok result v => cases result <;> rfl

theorem loadClass_eq_memberwise [DecidableEq I] {r : Roster I H E U} (hr : r.AppliesUnder unchanged)
    {cls : U .cls} {load : LoadContext E} {s : Session I H} (hs : s.store.Reachable) :
    loadClass r cls load s = (do
      let result ← loadMemberwise r cls load
      announce (s.store.snapshot.touchesClass (.ofText (ClassShape.name cls)))
        (.ofText (ClassShape.name cls)) result
      return result) s := by
  cases touched : s.store.snapshot.touchesClass (.ofText (ClassShape.name cls)) with
  | true => exact loadClass_of_touched hr touched
  | false =>
    simp only [bind_apply, loadMemberwise_of_untouched hr hs.consistent touched]
    unfold loadClass
    simp [touched, announce]

omit [ClassShape U] in
theorem noted_announce {N : Type} (x : SessionM I (H × List N) (Except TransformError (U .cls)))
    (touched : Bool) (owner : ClassName) (s : Session I H) :
    (do let result ← x; announce touched owner result; return result).noted s = x.noted s := by
  unfold noted after
  rw [bind_apply]
  cases x (s.withNotes []) with
  | error c t => rfl
  | ok result t =>
    cases result with
    | error e => rfl
    | ok cls => cases touched <;> rfl

/-- A load and its member-by-member form end alike and leave the same session behind, but for the
event at the end, and call the same transformers in the same order. For a class that no target
belongs to, neither does anything. -/
theorem loadClass_memberwise [DecidableEq I] (r : Roster I H E U)
    (hr : r.AppliesUnder unchanged) (cls : U .cls) (load : LoadContext E)
    (s : Session I H) (hs : s.store.Reachable) :
    let owner := ClassName.ofText (ClassShape.name cls)
    let touched := s.store.snapshot.touchesClass owner
    loadClass r cls load s = (do
        let result ← loadMemberwise r cls load
        announce touched owner result
        return result) s ∧
      (loadClass r.writing cls load).noted s = (loadMemberwise r.writing cls load).noted s ∧
      (touched = false → loadMemberwise r cls load s = .ok (.ok cls) s ∧
        (loadMemberwise r.writing cls load).noted s = []) := by
  intro owner touched
  refine ⟨loadClass_eq_memberwise hr hs, ?_, fun untouched => ⟨?_, ?_⟩⟩
  · rw [noted_congr (loadClass_eq_memberwise hr.writing hs), noted_announce]
  · exact loadMemberwise_of_untouched hr hs.consistent untouched
  · exact noted_of_untouched hr hs.consistent untouched

def fieldwise : Roster Nat Unit Unit PlainUnit :=
  .marking fun h => return if h.kind = .cls then [.ofClass "a.B"] else [.ofField "a.B" "f" "I"]

/-- The two fields of one name and the class are asked, and each is given its mark. -/
theorem loadClass_memberwise_marked :
    let f : PlainMember := { name := "f", descriptor := "I" }
    let g : PlainMember := { name := "g", descriptor := "I" }
    let cls : PlainClass := { name := "a/B", fields := [f, g, f] }
    let s₀ : Session Nat Unit := { store := .empty, host := () }
    let s₁ := (register fieldwise ⟨.field, 1⟩).after s₀
    let s := (register fieldwise ⟨.cls, 2⟩).after s₁
    (loadClass fieldwise.writing cls {}).noted s = (loadMemberwise fieldwise.writing cls {}).noted s ∧
      ((loadClass fieldwise.writing cls {}).noted s).length = 6 := by
  intro f g cls s₀ s₁ s
  have hr : fieldwise.Under growth := Roster.marking_under fun _ => obeys_pure _
  have began : s₀.store.Reachable := Store.reachable_empty {}
  have first : s₁.store.Reachable := began.grow (register_obeys growth_allowsChanges hr.declares s₀)
  have next : s.store.Reachable := first.grow (register_obeys growth_allowsChanges hr.declares s₁)
  refine ⟨?_, by decide +kernel⟩
  exact (loadClass_memberwise fieldwise Roster.marking_applies cls {} s next).2.1

end TransformRegistry
