import TransformRegistry.Proofs.Trails
import TransformRegistry.Proofs.Visits

/-!
# Marks and trails

Where every transformer that is applied leaves its label as a mark, and nothing else, a unit and the
trail tell the same story: what is marked is what the trail has down as applied, in the same order.
-/

namespace TransformRegistry

variable {I H E : Type} {U : Kind → Type} {name : String}

open SessionM

/-! ## Units that bear marks -/

/-- A family of units that can be marked. A mark goes to the end of the marks of its unit and leaves
everything else as it is. -/
class MarkedShape (U : Kind → Type) extends ClassShape U where
  marks : {k : Kind} → U k → List String
  mark : {k : Kind} → String → U k → U k
  marks_mark : ∀ {k} m (u : U k), marks (mark m u) = marks u ++ [m]
  name_mark : ∀ m c, name (mark m c) = name c
  fields_mark : ∀ m c, fields (mark m c) = fields c
  methods_mark : ∀ m c, methods (mark m c) = methods c
  fieldName_mark : ∀ m f, fieldName (mark m f) = fieldName f
  fieldDescriptor_mark : ∀ m f, fieldDescriptor (mark m f) = fieldDescriptor f
  methodName_mark : ∀ m g, methodName (mark m g) = methodName g
  methodDescriptor_mark : ∀ m g, methodDescriptor (mark m g) = methodDescriptor g
  marks_setFields : ∀ c fs, marks (setFields c fs) = marks c
  marks_setMethods : ∀ c ms, marks (setMethods c ms) = marks c

open MarkedShape ClassShape

section Shapes

variable [MarkedShape U] {k : Kind} {owner : ClassName}

/-- The unit with these marks put at its end, one after another. -/
def markAll (labels : List String) (u : U k) : U k := labels.foldl (fun u m => mark m u) u

theorem markAll_append (labels more : List String) (u : U k) :
    markAll (labels ++ more) u = markAll more (markAll labels u) :=
  List.foldl_append ..

theorem markAll_eq {β : Type} {f : U k → β} (h : ∀ m u, f (mark m u) = f u) (labels : List String)
    (u : U k) : f (markAll labels u) = f u := by
  induction labels generalizing u with
  | nil => rfl
  | cons m rest ih => exact (ih (mark m u)).trans (h m u)

theorem marks_markAll (labels : List String) (u : U k) :
    marks (markAll labels u) = marks u ++ labels := by
  induction labels generalizing u with
  | nil => exact (List.append_nil _).symm
  | cons m rest ih =>
    rw [markAll, List.foldl_cons, ← markAll, ih, marks_mark, List.append_assoc]
    rfl

theorem fieldTarget_mark (m : String) (f : U .field) :
    fieldTarget owner (mark m f) = fieldTarget owner f := by
  unfold fieldTarget
  rw [fieldName_mark, fieldDescriptor_mark]

theorem methodTarget_mark (m : String) (g : U .method) :
    methodTarget owner (mark m g) = methodTarget owner g := by
  unfold methodTarget
  rw [methodName_mark, methodDescriptor_mark]

/-- The marks that a unit has got since it was as before. -/
def newMarks (before after : U k) : List String := (marks after).drop (marks before).length

theorem newMarks_markAll (labels : List String) (u : U k) :
    newMarks u (markAll labels u) = labels := by
  unfold newMarks
  rw [marks_markAll, List.drop_left]

/-- The members are what they were, one by one, but for new marks. -/
def SameButMarks (before after : List (U k)) : Prop :=
  List.Forall₂ (fun u v => ∃ labels, v = markAll labels u) before after

/-- The new marks of those members that are the target, in order. -/
def newMarksOf (targetOf : U k → Target) (t : Target) (before after : List (U k)) : List String :=
  (before.zip after).flatMap fun (u, v) => if targetOf u = t then newMarks u v else []

theorem newMarksOf_cons (targetOf : U k → Target) (t : Target) (u v : U k)
    (before after : List (U k)) :
    newMarksOf targetOf t (u :: before) (v :: after) =
      (if targetOf u = t then newMarks u v else []) ++ newMarksOf targetOf t before after := rfl

theorem newMarks_self (u : U k) : newMarks u u = [] := newMarks_markAll [] u

theorem newMarksOf_self (targetOf : U k → Target) (t : Target) (members : List (U k)) :
    newMarksOf targetOf t members members = [] := by
  induction members with
  | nil => rfl
  | cons u rest ih => rw [newMarksOf_cons, ih, newMarks_self, ite_self, List.append_nil]

theorem newMarksOf_eq_nil {targetOf : U k → Target} {t : Target} (other : ∀ u, targetOf u ≠ t)
    (before after : List (U k)) : newMarksOf targetOf t before after = [] :=
  List.flatMap_eq_nil_iff.2 fun (u, _) _ => if_neg (other u)

/-- The new marks of those members of the class that are the target, in the order of the class. -/
def newMemberMarks (owner : ClassName) (t : Target) (cls next : U .cls) : List String :=
  newMarksOf (fieldTarget owner) t (fields cls) (fields next) ++
    newMarksOf (methodTarget owner) t (methods cls) (methods next)

theorem newMemberMarks_self (t : Target) (cls : U .cls) : newMemberMarks owner t cls cls = [] := by
  unfold newMemberMarks
  rw [newMarksOf_self, newMarksOf_self]
  rfl

theorem newMemberMarks_cls (other : ClassName) (cls next : U .cls) :
    newMemberMarks owner (.cls other) cls next = [] := by
  unfold newMemberMarks
  rw [newMarksOf_eq_nil nofun, newMarksOf_eq_nil nofun]
  rfl

theorem newMarks_markAll_of_parts (labels : List String) (cls : U .cls) (fs : List (U .field))
    (ms : List (U .method)) :
    newMarks cls (markAll labels (setMethods (setFields cls fs) ms)) = labels := by
  unfold newMarks
  rw [marks_markAll, marks_setMethods, marks_setFields, List.drop_left]

end Shapes

/-! ## Transformers that leave marks -/

section Marking

variable [MarkedShape U] {k : Kind}

/-- The transformer goes by that label, and where it does not fail, leaves it as a mark. -/
structure Transformer.LeavesMark (x : Transformer I H E (U k)) (own : String) : Prop where
  label : ∀ {s t found}, x.label s = .ok found t → found = own
  transform : ∀ {unit ballot s t next}, x.transform unit ballot s = .ok (.ok next) t →
    next = mark own unit

def Roster.LeavesMarks (r : Roster I H E U) (labelOf : Handle I → String) : Prop :=
  ∀ k i, (r.transformer k i).LeavesMark (labelOf ⟨k, i⟩)

variable {target : Target} {load : LoadContext E} {unit next : U k} {history told : List Entry}
  {s t : Session I H}

theorem ask_marks {x : Transformer I H E (U k)} {label : String} (hx : x.LeavesMark label)
    {pass : Pass} {entry : Entry}
    (ran : ask target load pass unit history x s = .ok (.went next entry) t) :
    next = markAll (appliedLabels [entry]) unit := by
  unfold ask at ran
  obtain ⟨found, s₁, labelled, ran⟩ := bind_eq_ok ran
  obtain ⟨vote, s₂, voted, ran⟩ := bind_eq_ok ran
  obtain ⟨_, s₃, reported, ran⟩ := bind_eq_ok ran
  obtain rfl := hx.label labelled
  cases vote with
  | yes =>
    obtain ⟨result, s₄, transformed, ran⟩ := bind_eq_ok ran
    cases result with
    | ok marked =>
      cases ran
      exact hx.transform transformed
    | error reason => cases ran
  | no =>
    cases ran
    rfl
  | defer => cases ran

/-- A queue that is through has marked the unit with what it has told was applied. -/
theorem askQueue_marks {queue : List (Transformer I H E (U k) × Pass)}
    (hq : ∀ q ∈ queue, ∃ label, q.1.LeavesMark label)
    (ran : askQueue target load unit history queue s = .ok (.ok next, told) t) :
    ∃ more, told = history ++ more ∧ next = markAll (appliedLabels more) unit := by
  replace ran := inquiry_of_askQueue ran
  generalize ended : (.ok next : Except TransformError (U k)) = result at ran
  induction ran with
  | done =>
    cases ended
    exact ⟨[], (List.append_nil _).symm, rfl⟩
  | failed _ => cases ended
  | went asked _ ih =>
    obtain ⟨⟨own, hx⟩, hrest⟩ := List.forall_mem_cons.1 hq
    obtain rfl := ask_marks hx asked
    obtain ⟨more, rfl, rfl⟩ := ih hrest ended
    refine ⟨_ :: more, List.append_assoc .., ?_⟩
    rw [← markAll_append, ← appliedLabels_append]
    rfl
  | deferredTwice _ _ ih =>
    obtain ⟨more, rfl, rfl⟩ := ih (List.forall_mem_cons.1 hq).2 ended
    exact ⟨_ :: more, List.append_assoc .., rfl⟩
  | deferred _ _ ih =>
    obtain ⟨hx, hrest⟩ := List.forall_mem_cons.1 hq
    obtain ⟨more, rfl, rfl⟩ :=
      ih (List.forall_mem_append.2 ⟨hrest, List.forall_mem_singleton.2 hx⟩) ended
    exact ⟨_ :: more, List.append_assoc .., rfl⟩

end Marking

/-! ## Visits that leave marks -/

section Visits

variable [MarkedShape U] {r : Roster I H E U} {labelOf : Handle I → String} {snapshot : Snapshot I}
  {load : LoadContext E} {s t : Session I H}

/-- The unit has got the marks that its history has down as applied. -/
def Change.Marked {k : Kind} (c : Change (U k)) : Prop :=
  c.next = markAll (appliedLabels c.told) c.unit

theorem Visited.marked {v : Visit U} (visited : Visited r snapshot load s v t)
    (hr : r.LeavesMarks labelOf) : v.change.Marked := by
  have leaves : ∀ q ∈ (snapshot.transformers r v.kind v.target).map (·, Pass.first),
      ∃ own, q.1.LeavesMark own := by
    intro q hq
    obtain ⟨x, hx, rfl⟩ := List.mem_map.1 hq
    obtain ⟨i, -, rfl⟩ := List.mem_map.1 hx
    exact ⟨_, hr v.kind i⟩
  obtain ⟨told, same, marked⟩ := askQueue_marks leaves (eq_ok_of_answer visited.asked)
  rw [List.nil_append] at same
  rw [Change.Marked, same]
  exact marked

omit [MarkedShape U] in
theorem Visited.registered {v : Visit U} (visited : Visited r snapshot load s v t)
    (told : v.change.told ≠ []) : snapshot.handlesFor v.target ≠ [] := by
  intro nobody
  have idle : snapshot.transformers r v.kind v.target = [] := by
    rw [← List.isEmpty_iff, transformers_isEmpty snapshot r visited.kind, nobody]
    rfl
  have asked := visited.asked
  rw [Visit.ask, idle, List.map_nil, askQueue] at asked
  cases same : v.change with
  | mk unit next history =>
    rw [same] at asked told
    cases asked
    exact told rfl

theorem Walk.marked {visits : List (Visit U)} (walk : Walk r snapshot load s visits t)
    (hr : r.LeavesMarks labelOf) : ∀ v ∈ visits, v.change.Marked := by
  intro v hv
  obtain ⟨_, _, visited⟩ := walk.visited hv
  exact visited.marked hr

theorem marked_of_visitsTo {k : Kind} {targetOf : U k → Target} {changes : List (Change (U k))}
    (marked : ∀ v ∈ visitsTo k targetOf changes, v.change.Marked) : ∀ c ∈ changes, c.Marked :=
  fun _ hc => marked _ (List.mem_map_of_mem hc)

/-- The new marks of members are those that the trail has been told of. -/
theorem newMarksOf_visitsTo {k : Kind} {targetOf : U k → Target} (u : Target)
    {changes : List (Change (U k))} (marked : ∀ c ∈ changes, c.Marked) :
    newMarksOf targetOf u (changes.map (·.unit)) (changes.map (·.next)) =
      appliedLabels (toldFor u ((visitsTo k targetOf changes).map Visit.telling)) := by
  induction changes with
  | nil => rfl
  | cons c rest ih =>
    obtain ⟨here, later⟩ := List.forall_mem_cons.1 marked
    have first : newMarks c.unit c.next = appliedLabels c.told := by rw [here, newMarks_markAll]
    have told : (visitsTo k targetOf (c :: rest)).map Visit.telling =
        (targetOf c.unit, c.told) :: (visitsTo k targetOf rest).map Visit.telling := rfl
    rw [List.map_cons, List.map_cons, newMarksOf_cons, ih later, told, toldFor_cons,
      appliedLabels_append, first]
    split <;> rfl

end Visits

/-! ## Marked classes -/

section Classes

variable [MarkedShape U]

namespace SameButMarks

variable {k : Kind}

theorem refl (members : List (U k)) : SameButMarks members members :=
  List.forall₂_same.2 fun _ _ => ⟨[], rfl⟩

theorem of_changes {changes : List (Change (U k))} (marked : ∀ c ∈ changes, c.Marked) :
    SameButMarks (changes.map (·.unit)) (changes.map (·.next)) := by
  unfold SameButMarks
  rw [List.forall₂_map_left_iff, List.forall₂_map_right_iff]
  exact List.forall₂_same.2 fun c hc => ⟨_, marked c hc⟩

theorem map_eq {β : Type} {f : U k → β} {before after : List (U k)}
    (same : SameButMarks before after) (h : ∀ m u, f (mark m u) = f u) :
    after.map f = before.map f := by
  induction same with
  | nil => rfl
  | cons marked _ ih =>
    obtain ⟨labels, rfl⟩ := marked
    rw [List.map_cons, List.map_cons, ih, markAll_eq h]

end SameButMarks

/-- The class is what it was, with the same members in order, but for new marks on all of them. -/
structure SameClassButMarks (cls next : U .cls) : Prop where
  name : ClassShape.name next = ClassShape.name cls
  fields : SameButMarks (ClassShape.fields cls) (ClassShape.fields next)
  methods : SameButMarks (ClassShape.methods cls) (ClassShape.methods next)
  rest : ∃ labels, next = markAll labels (ClassShape.setMethods (ClassShape.setFields cls
    (ClassShape.fields next)) (ClassShape.methods next))

namespace SameClassButMarks

theorem refl (cls : U .cls) : SameClassButMarks cls cls where
  name := rfl
  fields := .refl _
  methods := .refl _
  rest := ⟨[], by rw [setFields_fields, setMethods_methods]; rfl⟩

theorem of_changes {cls next : U .cls} {fields : List (Change (U .field))}
    {methods : List (Change (U .method))} {labels : List String}
    (hf : ClassShape.fields cls = fields.map (·.unit))
    (hm : ClassShape.methods cls = methods.map (·.unit)) (markedFields : ∀ c ∈ fields, c.Marked)
    (markedMethods : ∀ c ∈ methods, c.Marked)
    (marked : next = markAll labels (ClassShape.setMethods (ClassShape.setFields cls
      (fields.map (·.next))) (methods.map (·.next)))) :
    ClassShape.fields next = fields.map (·.next) ∧
      ClassShape.methods next = methods.map (·.next) ∧ SameClassButMarks cls next := by
  have newFields : ClassShape.fields next = fields.map (·.next) := by
    rw [marked, markAll_eq fields_mark, fields_setMethods, fields_setFields]
  have newMethods : ClassShape.methods next = methods.map (·.next) := by
    rw [marked, markAll_eq methods_mark, methods_setMethods]
  refine ⟨newFields, newMethods, ?_, ?_, ?_, labels, ?_⟩
  · rw [marked, markAll_eq name_mark, name_setMethods, name_setFields]
  · rw [hf, newFields]
    exact .of_changes markedFields
  · rw [hm, newMethods]
    exact .of_changes markedMethods
  · rw [newFields, newMethods]
    exact marked

theorem classTargets_eq {cls next : U .cls} (same : SameClassButMarks cls next) :
    classTargets next = classTargets cls := by
  unfold classTargets
  dsimp only
  rw [same.name, same.fields.map_eq fieldTarget_mark, same.methods.map_eq methodTarget_mark]

end SameClassButMarks

end Classes

/-! ## What a load marks -/

theorem Trail.Tidy.recordAll {trail : Trail} (tidy : trail.Tidy) (told : Telling) :
    (trail.recordAll told).Tidy := by
  induction told generalizing trail with
  | nil => exact tidy
  | cons d rest ih => exact ih (tidy.record d.1 d.2)

theorem Trail.mem_targets_told {told : Telling} {t : Target}
    (ht : t ∈ (Trail.empty.recordAll told).targets) : ∃ d ∈ told, d.1 = t ∧ d.2 ≠ [] := by
  have tells := (tidy_empty.recordAll told).mem_targets_iff.1 ht
  rw [history_recordAll, history_empty, List.nil_append] at tells
  by_contra nothing
  refine tells (List.flatMap_eq_nil_iff.2 fun d hd => ?_)
  obtain ⟨hd, here⟩ := List.mem_filter.1 hd
  by_contra told
  exact nothing ⟨d, hd, by simpa using here, told⟩

theorem Trail.applied_recordAll (told : Telling) (t : Target) :
    (Trail.empty.recordAll told).applied t = appliedLabels (toldFor t told) := by
  rw [applied, history_recordAll, history_empty, List.nil_append]

/-- What visits to a class have applied is what it has been marked with. -/
theorem applied_classVisits [MarkedShape U] {cls next : U .cls} {fields : List (Change (U .field))}
    {methods : List (Change (U .method))} (told : List Entry)
    (hf : ClassShape.fields cls = fields.map (·.unit))
    (hm : ClassShape.methods cls = methods.map (·.unit))
    (newFields : ClassShape.fields next = fields.map (·.next))
    (newMethods : ClassShape.methods next = methods.map (·.next))
    (markedFields : ∀ c ∈ fields, c.Marked) (markedMethods : ∀ c ∈ methods, c.Marked)
    (t : Target) :
    let owner := ClassName.ofText (ClassShape.name cls)
    let telling := (classVisits cls next fields methods told).map Visit.telling
    (Trail.empty.recordAll telling).applied t =
      newMemberMarks owner t cls next ++ appliedLabels (toldFor t [(.cls owner, told)]) := by
  intro owner telling
  unfold newMemberMarks
  rw [hf, hm, newFields, newMethods, newMarksOf_visitsTo t markedFields,
    newMarksOf_visitsTo t markedMethods, ← appliedLabels_append, ← appliedLabels_append,
    ← toldFor_append, ← toldFor_append, Trail.applied_recordAll, List.append_assoc]
  simp only [telling, classVisits, List.map_append]
  rfl

/-- Transformers leave their labels as marks and change nothing else. After a load, the new marks of
the members that are one target, in order, and those of the class are what the trail has down as
applied. The trail tells of no targets but parts of the class that somebody is registered for. -/
theorem marks_match_trail [DecidableEq I] [MarkedShape U] (r : Roster I H E U)
    (labelOf : Handle I → String) (leaves : r.LeavesMarks labelOf) (name : String)
    (spares : r.AppliesWith (ObeysIn name leftAlone)) (cls next : U .cls) (load : LoadContext E)
    (kept : load.trail? = some name) (s t : Session I H) (hs : s.store.Reachable)
    (began : s.trails name = .empty) (ran : loadClass r cls load s = .ok (.ok next) t) :
    let owner := ClassName.ofText (ClassShape.name cls)
    let trail := t.trails name
    SameClassButMarks cls next ∧ classTargets next = classTargets cls ∧
      (∀ target, target ≠ .cls owner →
        newMemberMarks owner target cls next = trail.applied target) ∧
      newMarks cls next = trail.applied (.cls owner) ∧
      ∀ target ∈ trail.targets,
        target ∈ classTargets cls ∧ s.store.snapshot.isTargeted target = true := by
  intro owner trail
  rcases loadClass_visits ran with
    ⟨-, rfl, rfl⟩ | ⟨fields, methods, told, u, hf, hm, walk, rfl⟩
  · have nothing : trail = Trail.empty.recordAll [] := began
    rw [nothing]
    refine ⟨.refl _, rfl, fun target _ => newMemberMarks_self .., newMarks_self _,
      fun target ht => ?_⟩
    obtain ⟨d, hd, -⟩ := Trail.mem_targets_told ht
    cases hd
  obtain ⟨inFields, inOthers⟩ := List.forall_mem_append.1 (walk.marked leaves)
  obtain ⟨inMethods, inClass⟩ := List.forall_mem_append.1 inOthers
  have markedFields := marked_of_visitsTo inFields
  have markedMethods := marked_of_visitsTo inMethods
  have markedClass : next = markAll (appliedLabels told) (setMethods (setFields cls
    (fields.map (·.next))) (methods.map (·.next))) := inClass _ (List.mem_singleton_self _)
  obtain ⟨newFields, newMethods, same⟩ :=
    SameClassButMarks.of_changes hf hm markedFields markedMethods markedClass
  have tells : trail = _ := walk.trail spares kept
  rw [began] at tells
  have applied := applied_classVisits told hf hm newFields newMethods markedFields markedMethods
  rw [tells]
  refine ⟨same, same.classTargets_eq, fun target other => ?_, ?_, fun target ht => ?_⟩
  · have untold : toldFor target [(.cls owner, told)] = [] :=
      toldFor_eq_nil (List.forall_mem_singleton.2 other.symm)
    rw [applied, untold]
    exact (List.append_nil _).symm
  · have told : toldFor (.cls owner) [(.cls owner, told)] = told := by simp [toldFor]
    rw [applied, newMemberMarks_cls, told, List.nil_append, markedClass, newMarks_markAll_of_parts]
  · obtain ⟨d, hd, rfl, something⟩ := Trail.mem_targets_told ht
    obtain ⟨v, hv, rfl⟩ := List.mem_map.1 hd
    obtain ⟨_, _, visited⟩ := walk.visited hv
    have part := List.mem_map_of_mem (f := (·.target)) hv
    rw [target_classVisits hf hm] at part
    exact ⟨part, hs.consistent.isTargeted_iff_handlesFor.2 (visited.registered something)⟩

instance : MarkedShape PlainUnit where
  marks {k} u := match k, u with
    | .cls, c => c.marks
    | .method, m => m.marks
    | .field, f => f.marks
  mark {k} m u := PlainUnit.mark m k u
  marks_mark {k} _ _ := by cases k <;> rfl
  name_mark _ _ := rfl
  fields_mark _ _ := rfl
  methods_mark _ _ := rfl
  fieldName_mark _ _ := rfl
  fieldDescriptor_mark _ _ := rfl
  methodName_mark _ _ := rfl
  methodDescriptor_mark _ _ := rfl
  marks_setFields _ _ := rfl
  marks_setMethods _ _ := rfl

/-- The first is too shy to be applied at once. -/
def shy : Roster Nat Unit Unit PlainUnit where
  transformer k i :=
    { fieldwise.transformer k i with
      vote := fun ballot => return if i = 1 ∧ ballot.pass = .first then .defer else .yes }

/-- Two fields are one target. The trail has down the marks of one, and then those of the other. -/
theorem marks_match_trail_shy :
    let f : PlainMember := { name := "f", descriptor := "I" }
    let g : PlainMember := { name := "g", descriptor := "I" }
    let cls : PlainClass := { name := "a/B", fields := [f, g, f] }
    let marked : PlainMember := { f with marks := ["2", "1"] }
    let next : PlainClass := { cls with fields := [marked, g, marked], marks := ["3"] }
    let load : LoadContext Unit := { trail? := some "audit" }
    let s₀ : Session Nat Unit := { store := .empty, host := () }
    let s₁ := (register shy ⟨.field, 1⟩).after s₀
    let s₂ := (register shy ⟨.field, 2⟩).after s₁
    let s := (register shy ⟨.cls, 3⟩).after s₂
    let t := (loadClass shy cls load).after s
    (loadClass shy cls load).answer s = .ok (.ok next) ∧
      (t.trails "audit").applied (.ofField "a.B" "f" "I") = ["2", "1", "2", "1"] ∧
      (t.trails "audit").applied (.ofClass "a.B") = ["3"] ∧
      Target.ofField "a.B" "g" "I" ∉ (t.trails "audit").targets := by
  intro f g cls marked next load s₀ s₁ s₂ s t
  have plain : shy.DeclaresUnder growth := ⟨fun _ => obeys_pure _, fun _ => obeys_pure _⟩
  have began : s₀.store.Reachable := Store.reachable_empty {}
  have reachable : s.store.Reachable :=
    ((began.grow (register_obeys growth_allowsChanges plain s₀)).grow
      (register_obeys growth_allowsChanges plain s₁)).grow
        (register_obeys growth_allowsChanges plain s₂)
  have leaves : shy.LeavesMarks fun h => toString h.id := fun k i =>
    ⟨fun labelled => by cases labelled; rfl, fun transformed => by cases transformed; rfl⟩
  have spares : shy.AppliesWith (ObeysIn "audit" leftAlone) := fun k i =>
    ⟨obeysIn_heritable.pure _, fun _ => obeysIn_heritable.pure _,
      fun _ _ => obeysIn_heritable.pure _⟩
  obtain ⟨empty, ended, untargeted⟩ : s.trails "audit" = .empty ∧
      (loadClass shy cls load).answer s = .ok (.ok next) ∧
      s.store.snapshot.isTargeted (.ofField "a.B" "g" "I") = false := by
    decide +kernel
  have ran : loadClass shy cls load s = .ok (.ok next) t := eq_ok_of_answer ended
  clear_value t s
  obtain ⟨-, -, members, itself, targets⟩ := marks_match_trail shy _ leaves "audit" spares cls next
    load rfl s t reachable empty ran
  have owner : Target.ofClass "a.B" = .cls (.ofText "a/B") := by decide +kernel
  refine ⟨ended, ?_, ?_, fun told => ?_⟩
  · rw [← members _ (by decide)]
    decide +kernel
  · rw [owner]
    exact itself.symm
  · have targeted := (targets _ told).2
    rw [untargeted] at targeted
    cases targeted

end TransformRegistry
