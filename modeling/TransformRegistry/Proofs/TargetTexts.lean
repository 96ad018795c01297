import TransformRegistry.Proofs.MethodTypes
import TransformRegistry.Proofs.StrictTargets
import TransformRegistry.Target.Text

/-!
# The text of a target tells which one it is

The colons cut the text of a target into pieces, and the number of pieces tells its kind. Nothing
stands between the name and the descriptor of a method, but an accepted descriptor opens its one
parenthesis at once, so the last one in the text is where it starts.
-/

namespace TransformRegistry

/-! ## The parenthesis of a method type -/

namespace Descriptor

theorem ElementType.unopened {element : List Char} (ok : ElementType id element) :
    '(' ∉ element := by
  cases ok with
  | @base tag ht =>
    have all : baseTags.all (· ≠ '(') = true := by decide
    have other : tag ≠ '(' := of_decide_eq_true (List.all_eq_true.1 all tag ht)
    simpa using other.symm
  | object name =>
    obtain @⟨segments, -, ok⟩ := name
    have inner : '(' ∉ ['/'].intercalate segments := by
      intro opened
      rcases mem_intercalate opened with between | ⟨s, hs, inside⟩
      · cases between
      · exact (ok s hs).unbroken '(' (by decide) inside
    simpa using inner

theorem FieldType.unopened {type : List Char} (ok : FieldType id type) : '(' ∉ type := by
  obtain @⟨k, element, -, ok⟩ := ok
  intro opened
  rcases List.mem_append.1 opened with dimension | inside
  · cases List.eq_of_mem_replicate dimension
  · exact ok.unopened inside

theorem opens_of_checkMethod {text : String} (accepted : checkMethod text = .ok ()) :
    ∃ after, text.toList = '(' :: after ∧ '(' ∉ after := by
  obtain ⟨m, ok, rfl⟩ := checkMethod_eq_ok_iff.1 accepted
  have parameters : ∀ p ∈ m.parameters, '(' ∉ p.toList := fun p hp =>
    (checkField_eq_ok_iff.1 (ok.parameters p hp)).unopened
  have result : '(' ∉ m.result.toList := by
    rcases ok.result with void | field
    · rw [void]
      decide
    · exact (checkField_eq_ok_iff.1 field).unopened
  refine ⟨(String.join m.parameters).toList ++ ')' :: m.result.toList, ?_, ?_⟩
  · simp [MethodParts.text]
  · simpa [result] using parameters

end Descriptor

namespace Text

theorem append_cons_inj_of_last {α : Type} {a : α} {l m after others : List α}
    (last : a ∉ after) (lastToo : a ∉ others) (same : l ++ a :: after = m ++ a :: others) :
    l = m ∧ after = others := by
  rcases append_split same with ⟨left, -, rfl⟩ | ⟨own, rfl, later⟩
  · simp at lastToo
  · cases own with
    | nil =>
      obtain ⟨-, rfl⟩ := List.cons.inj later
      exact ⟨(List.append_nil l).symm, rfl⟩
    | cons b own =>
      obtain ⟨-, rfl⟩ := List.cons.inj later
      simp at last

end Text

/-! ## The pieces between colons -/

namespace Target

variable {a b t : Target}

/-- No part of the target holds a colon. -/
structure ColonFree (t : Target) : Prop where
  owner : ':' ∉ t.owner.text.toList
  name : ∀ name ∈ t.name?, ':' ∉ name.toList
  descriptor : ∀ descriptor ∈ t.descriptor?, ':' ∉ descriptor.toList

/-- What the colons of the text set apart. -/
def pieces : Target → List (List Char)
  | .cls owner => [owner.text.toList]
  | .method owner name descriptor => [owner.text.toList, [], name.toList ++ descriptor.toList]
  | .field owner name descriptor => [owner.text.toList, [], name.toList, descriptor.toList]

theorem toList_text (t : Target) : t.text.toList = [':'].intercalate t.pieces := by
  cases t <;> simp [text, pieces, List.intercalate]

theorem ColonFree.pieces (free : t.ColonFree) : ∀ piece ∈ t.pieces, ':' ∉ piece := by
  have owner := free.owner
  cases t with
  | cls =>
    rw [Target.pieces, List.forall_mem_singleton]
    exact owner
  | method | field =>
    have name := free.name _ rfl
    have descriptor := free.descriptor _ rfl
    simp only [Target.owner] at owner
    simp [Target.pieces, owner, name, descriptor]

theorem ColonFree.splitOn_text (free : t.ColonFree) : t.text.toList.splitOn ':' = t.pieces := by
  have some : t.pieces ≠ [] := by cases t <;> simp [Target.pieces]
  rw [toList_text, List.splitOn_intercalate _ free.pieces some]

/-- The descriptor of a method is one that is accepted. -/
def MethodTyped (t : Target) : Prop :=
  ∀ owner name descriptor, t = .method owner name descriptor →
    Descriptor.checkMethod descriptor = .ok ()

theorem methodTyped_of_strict {p : Spelling} (made : p.strict = .ok t) : t.MethodTyped := by
  obtain ⟨ok, rfl⟩ := Spelling.strict_eq_ok_iff.1 made
  intro owner name descriptor isMethod
  cases p with
  | cls => cases isMethod
  | field => cases isMethod
  | method =>
    cases isMethod
    exact ok.2.2

theorem eq_of_pieces (okA : a.MethodTyped) (okB : b.MethodTyped) (same : a.pieces = b.pieces) :
    a = b := by
  cases a with
  | cls owner =>
    cases b with
    | cls other =>
      have owners : owner.text = other.text := String.toList_inj.1 (by simpa [pieces] using same)
      rw [ClassName.ext owners]
    | method | field => simp [pieces] at same
  | method owner name descriptor =>
    cases b with
    | method other otherName otherDescriptor =>
      obtain ⟨after, hd, last⟩ := Descriptor.opens_of_checkMethod (okA _ _ _ rfl)
      obtain ⟨later, he, lastToo⟩ := Descriptor.opens_of_checkMethod (okB _ _ _ rfl)
      simp only [pieces, List.cons.injEq, and_true, true_and, hd, he] at same
      obtain ⟨owners, joined⟩ := same
      obtain ⟨names, rfl⟩ := Text.append_cons_inj_of_last last lastToo joined
      rw [ClassName.ext (String.toList_inj.1 owners), String.toList_inj.1 names,
        String.toList_inj.1 (hd.trans he.symm)]
    | cls | field => simp [pieces] at same
  | field owner name descriptor =>
    cases b with
    | field other otherName otherDescriptor =>
      simp only [pieces, List.cons.injEq, and_true, true_and, String.toList_inj] at same
      obtain ⟨owners, rfl, rfl⟩ := same
      rw [ClassName.ext owners]
    | cls | method => simp [pieces] at same

end Target

/-- No two targets that the strict makers accept have one text, where no part holds a colon. -/
theorem strict_eq_of_text {p q : Spelling} {a b : Target} (madeA : p.strict = .ok a)
    (madeB : q.strict = .ok b) (freeA : a.ColonFree) (freeB : b.ColonFree)
    (same : a.text = b.text) : a = b := by
  have pieces : a.pieces = b.pieces := by rw [← freeA.splitOn_text, same, freeB.splitOn_text]
  exact Target.eq_of_pieces (Target.methodTyped_of_strict madeA) (Target.methodTyped_of_strict madeB)
    pieces

/-- The name has a parenthesis of its own, and the owner is spelled in two ways. -/
theorem strict_eq_of_text_parenthesis :
    let p : Spelling := .method "a/B" "f(" "(I[Lx/Y;)V"
    let q : Spelling := .method "a.B" "f(" "(I[Lx/Y;)V"
    p.strict = .ok p.target ∧ q.strict = .ok q.target ∧ p.target.ColonFree ∧ q.target.ColonFree ∧
      p.target.text = "a.B::f((I[Lx/Y;)V" ∧ q.target.text = "a.B::f((I[Lx/Y;)V" ∧
      p.target = q.target := by
  intro p q
  have madeP : p.strict = .ok p.target := by decide +kernel
  have madeQ : q.strict = .ok q.target := by decide +kernel
  have textP : p.target.text = "a.B::f((I[Lx/Y;)V" := by decide +kernel
  have textQ : q.target.text = "a.B::f((I[Lx/Y;)V" := by decide +kernel
  have freeP : p.target.ColonFree := ⟨by decide +kernel, by decide +kernel, by decide +kernel⟩
  have freeQ : q.target.ColonFree := ⟨by decide +kernel, by decide +kernel, by decide +kernel⟩
  exact ⟨madeP, madeQ, freeP, freeQ, textP, textQ,
    strict_eq_of_text madeP madeQ freeP freeQ (textP.trans textQ.symm)⟩

/-- With a colon in its name, a class has the text of a field. -/
example : (Target.ofClass "A::f:I").text = (Target.ofField "A" "f" "I").text := by decide +kernel

end TransformRegistry
