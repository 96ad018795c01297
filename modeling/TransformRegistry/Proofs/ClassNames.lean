import TransformRegistry.Proofs.Begun
import TransformRegistry.Proofs.StrictTargets

/-!
# Class names in targets and in descriptors

An owner is looked at one character and one segment at a time, and a descriptor is read byte by
byte. They agree on what may name a class: every owner that a strict maker accepts can be written in
a descriptor, and every class in an accepted descriptor can be a target.
-/

namespace TransformRegistry

open Descriptor Text

/-! ## Names without dots -/

/-- The separator of a descriptor for that of a class name. -/
def slashed (c : Char) : Char := if c = '.' then '/' else c

theorem slashed_ne_dot (c : Char) : slashed c ≠ '.' := by
  unfold slashed
  split
  · decide
  · assumption

theorem respells_slashed : Respells slashed := by
  intro c
  by_cases dot : c = '.'
  · subst dot
    exact .inr ⟨by decide, by decide⟩
  · exact .inl (if_neg dot)

theorem splitOnP_of_dotFree {l : List Char} (hl : '.' ∉ l) :
    l.splitOnP (· ∈ ['.', '/']) = l.splitOn '/' := by
  rw [← segments_eq_splitOnP, ← segments_eq_splitOn]
  refine segments_congr fun c hc => ?_
  have other : c ≠ '.' := ne_of_mem_of_not_mem hc hl
  simp [other, beq_eq_decide]

theorem objectName_iff_splitOn {name : List Char} :
    ObjectName id name ↔ ∀ s ∈ name.splitOn '/', Segment id s := by
  constructor
  · rintro @⟨pieces, some, ok⟩
    have slashFree : ∀ s ∈ pieces, '/' ∉ s := fun s hs => (ok s hs).unbroken '/' (by decide)
    rw [id, List.splitOn_intercalate _ slashFree some]
    exact ok
  · intro ok
    have joined : ['/'].intercalate (name.splitOn '/') = name := List.intercalate_splitOn '/'
    rw [← joined]
    exact .join (List.splitOn_ne_nil _ _) ok

theorem dotFree_of_objectName {name : List Char} (ok : ObjectName id name) : '.' ∉ name := by
  obtain @⟨pieces, some, ok⟩ := ok
  intro dot
  rcases mem_intercalate dot with slash | ⟨s, hs, inside⟩
  · cases slash
  · exact (ok s hs).unbroken '.' (by decide) inside

theorem mem_segmentBreaks_iff {c : Char} :
    c ∈ segmentBreaks ↔ c ∈ [';', '[', '(', ')'] ∨ c ∈ ['.', '/'] := by
  simp only [segmentBreaks, List.mem_cons, List.not_mem_nil, or_false]
  grind

/-- An owner is looked at as a whole, and the segments of a descriptor's name one by one. -/
theorem wellFormedOwner_iff_segments {owner : String} :
    WellFormedOwner owner ↔ ∀ s ∈ owner.toList.splitOnP (· ∈ ['.', '/']), Segment id s := by
  rw [← segments_eq_splitOnP]
  constructor
  · rintro ⟨-, plain, filled⟩ s hs
    rw [← segments_eq_splitOnP] at filled
    refine ⟨ne_of_mem_of_not_mem hs filled, fun c hc inside => ?_⟩
    obtain ⟨within, inner⟩ := mem_segments_iff.1 ⟨s, hs, inside⟩
    rcases mem_segmentBreaks_iff.1 hc with foreign | separator
    · exact plain c foreign within
    · exact of_decide_eq_false inner separator
  · intro ok
    refine ⟨?_, fun c hc within => ?_, ?_⟩
    · rintro rfl
      exact (ok [] (by simp)).nonempty rfl
    · have held : ∃ s ∈ segments (· ∈ ['.', '/']) owner.toList, c ∈ s :=
        mem_segments_iff.2 ⟨within, decide_eq_false (not_separator hc)⟩
      obtain ⟨s, hs, inside⟩ := held
      exact (ok s hs).unbroken c (mem_segmentBreaks_iff.2 (.inl hc)) inside
    · rw [← segments_eq_splitOnP]
      exact fun empty => (ok [] empty).nonempty rfl

theorem objectName_slashed_iff {owner : String} :
    ObjectName id (owner.map slashed).toList ↔ WellFormedOwner owner := by
  have free : '.' ∉ (owner.map slashed).toList := by
    simp [String.toList_map, slashed_ne_dot]
  rw [← respells_slashed.wellFormedOwner_iff, wellFormedOwner_iff_segments,
    splitOnP_of_dotFree free, objectName_iff_splitOn]

theorem wellFormedOwner_of_objectName {name : String} (ok : ObjectName id name.toList) :
    WellFormedOwner name := by
  rw [wellFormedOwner_iff_segments, splitOnP_of_dotFree (dotFree_of_objectName ok)]
  exact objectName_iff_splitOn.1 ok

/-! ## Classes that a descriptor names -/

/-- The type of the objects of a class, as a descriptor has it. -/
def objectType (owner : String) : String := "L" ++ owner.map slashed ++ ";"

/-- The type is that of the objects of the class, or of arrays of them. -/
def NamesClass (name type : String) : Prop :=
  ∃ k, type.toList = List.replicate k '[' ++ 'L' :: name.toList ++ [';']

/-- The class is named inside an accepted descriptor: in a field's type, or in the type of a
parameter or of the result of a method. -/
inductive NamedIn (name : String) : String → Prop
  | field {type : String} : checkField type = .ok () → NamesClass name type → NamedIn name type
  | parameter {m : MethodParts} {type : String} : m.Accepted → type ∈ m.parameters →
      NamesClass name type → NamedIn name m.text
  | result {m : MethodParts} : m.Accepted → NamesClass name m.result → NamedIn name m.text

theorem namesClass_objectType (owner : String) :
    NamesClass (owner.map slashed) (objectType owner) :=
  ⟨0, by simp [objectType]⟩

theorem objectName_of_fieldType {name : List Char} {k : Nat}
    (ok : FieldType id (List.replicate k '[' ++ 'L' :: name ++ [';'])) : ObjectName id name := by
  generalize spelled : List.replicate k '[' ++ 'L' :: name ++ [';'] = type at ok
  obtain @⟨n, element, -, ok⟩ := ok
  rw [List.append_assoc] at spelled
  cases ok with
  | @base tag ht =>
    have notDimension : tag ≠ '[' := by
      rintro rfl
      exact absurd ht (by decide)
    obtain ⟨-, same, -⟩ := replicate_append_cons_inj (by decide) notDimension spelled
    have same : 'L' = tag := same
    subst same
    exact absurd ht (by decide)
  | @object whole ok =>
    obtain ⟨-, -, same⟩ := replicate_append_cons_inj (c := 'L') (by decide) (by decide) spelled
    obtain rfl := List.append_cancel_right same
    exact ok

theorem NamesClass.objectName {name type : String} (named : NamesClass name type)
    (accepted : checkField type = .ok ()) : ObjectName id name.toList := by
  obtain ⟨k, spelled⟩ := named
  rw [checkField_eq_ok_iff, IsFieldType, spelled] at accepted
  exact objectName_of_fieldType accepted

theorem checkField_objectType_iff {owner : String} :
    checkField (objectType owner) = .ok () ↔ WellFormedOwner owner := by
  rw [← objectName_slashed_iff]
  constructor
  · exact (namesClass_objectType owner).objectName
  · intro ok
    rw [checkField_eq_ok_iff, IsFieldType]
    have type := FieldType.array (k := 0) (Nat.zero_le _) (.object ok)
    simpa [objectType] using type

theorem not_namesClass_void {name : String} : ¬NamesClass name "V" := by
  rintro ⟨k, spelled⟩
  have last := congrArg List.getLast? spelled
  rw [List.getLast?_concat] at last
  exact absurd last (by decide)

theorem NamedIn.objectName {name d : String} (named : NamedIn name d) :
    ObjectName id name.toList := by
  cases named with
  | field accepted named => exact named.objectName accepted
  | parameter ok among named => exact named.objectName (ok.parameters _ among)
  | result ok named =>
    rcases ok.result with void | accepted
    · rw [void] at named
      exact absurd named not_namesClass_void
    · exact named.objectName accepted

/-! ## Both agree -/

theorem strictClass_eq_ok_iff {owner : String} {t : Target} :
    Target.strictClass owner = .ok t ↔ WellFormedOwner owner ∧ t = .ofClass owner :=
  Spelling.strict_eq_ok_iff (p := .cls owner)

/-- An owner is strictly valid where its object type is accepted as a field's. A class that is named
in an accepted descriptor is valid as it stands there. -/
theorem strictClass_iff_objectType (owner : String) :
    ((∃ t, Target.strictClass owner = .ok t) ↔ checkField (objectType owner) = .ok ()) ∧
      ((∃ t, Target.strictClass owner = .ok t) ↔ ∃ d, NamedIn (owner.map slashed) d) ∧
      ∀ d, NamedIn owner d → Target.strictClass owner = .ok (.ofClass owner) := by
  have strict : (∃ t, Target.strictClass owner = .ok t) ↔ WellFormedOwner owner := by
    simp only [strictClass_eq_ok_iff, exists_and_left, exists_eq, and_true]
  refine ⟨strict.trans checkField_objectType_iff.symm, strict.trans ?_, fun d named => ?_⟩
  · constructor
    · intro ok
      exact ⟨_, .field (checkField_objectType_iff.2 ok) (namesClass_objectType owner)⟩
    · rintro ⟨d, named⟩
      exact objectName_slashed_iff.1 named.objectName
  · exact strictClass_eq_ok_iff.2 ⟨wellFormedOwner_of_objectName named.objectName, rfl⟩

/-- The class of the objects in a parameter that is an array. -/
theorem strictClass_iff_objectType_array :
    NamedIn "V/é" "(I[LV/é;)V" ∧ Target.strictClass "V/é" = .ok (.ofClass "V.é") := by
  have ok : MethodParts.Accepted ⟨["I", "[LV/é;"], "V"⟩ := ⟨by decide, .inl rfl⟩
  have named : NamedIn "V/é" "(I[LV/é;)V" :=
    .parameter ok (List.mem_cons_of_mem _ List.mem_cons_self) ⟨1, by decide⟩
  refine ⟨named, ?_⟩
  have same : Target.ofClass "V.é" = .ofClass "V/é" := by decide +kernel
  rw [same]
  exact (strictClass_iff_objectType "V/é").2.2 _ named

end TransformRegistry
