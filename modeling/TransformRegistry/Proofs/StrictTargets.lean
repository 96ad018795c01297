import TransformRegistry.Target.Strict

/-!
# Targets that the strict makers accept

A strict maker looks at the owner as it is spelled, and the target keeps it in another spelling. The
two are well formed together, because a separator is only ever exchanged for a separator.
-/

namespace TransformRegistry

open Text

/-! ## Owners -/

/-- What an owner must be to name a class, in either spelling. -/
structure WellFormedOwner (owner : String) : Prop where
  nonempty : owner ≠ ""
  plain : ∀ c ∈ [';', '[', '(', ')'], c ∉ owner.toList
  filled : [] ∉ owner.toList.splitOnP (· ∈ ['.', '/'])

/-- Exchanges separators for separators, and leaves every other character. -/
def Respells (f : Char → Char) : Prop := ∀ c, f c = c ∨ c ∈ ['.', '/'] ∧ f c ∈ ['.', '/']

theorem not_separator {c : Char} (hc : c ∈ [';', '[', '(', ')']) : c ∉ ['.', '/'] := by
  simp only [List.mem_cons, List.not_mem_nil, or_false] at hc ⊢
  rcases hc with rfl | rfl | rfl | rfl <;> decide

theorem respells_dotted : Respells dotted := by
  intro c
  by_cases slash : c = '/'
  · subst slash
    exact .inr ⟨by decide, by decide⟩
  · exact .inl (dotted_of_ne slash)

section Respelling

variable {f : Char → Char} (hf : Respells f)
include hf

theorem Respells.separator_iff (c : Char) : f c ∈ ['.', '/'] ↔ c ∈ ['.', '/'] := by
  rcases hf c with same | ⟨before, after⟩
  · rw [same]
  · exact iff_of_true after before

theorem Respells.eq_iff {c : Char} (other : c ∉ ['.', '/']) (d : Char) : f d = c ↔ d = c := by
  rcases hf d with same | ⟨before, after⟩
  · rw [same]
  · exact iff_of_false (fun h => other (h ▸ after)) (fun h => other (h ▸ before))

theorem Respells.mem_map_iff {c : Char} (other : c ∉ ['.', '/']) (l : List Char) :
    c ∈ l.map f ↔ c ∈ l := by
  simp [List.mem_map, hf.eq_iff other]

theorem Respells.splitOnP_map (l : List Char) :
    (l.map f).splitOnP (· ∈ ['.', '/']) = (l.splitOnP (· ∈ ['.', '/'])).map (List.map f) := by
  rw [← segments_eq_splitOnP, segments_map, ← segments_eq_splitOnP]
  simp only [hf.separator_iff]

theorem Respells.wellFormedOwner_iff (owner : String) :
    WellFormedOwner (owner.map f) ↔ WellFormedOwner owner := by
  have empty : owner.map f = "" ↔ owner = "" := by
    rw [← String.toList_eq_nil_iff, String.toList_map, List.map_eq_nil_iff,
      String.toList_eq_nil_iff]
  have plain : ∀ c ∈ [';', '[', '(', ')'], c ∈ (owner.map f).toList ↔ c ∈ owner.toList := by
    intro c hc
    rw [String.toList_map]
    exact hf.mem_map_iff (not_separator hc) _
  have filled : [] ∈ (owner.map f).toList.splitOnP (· ∈ ['.', '/']) ↔
      [] ∈ owner.toList.splitOnP (· ∈ ['.', '/']) := by
    rw [String.toList_map, hf.splitOnP_map]
    simp
  constructor
  · rintro ⟨hne, hplain, hfilled⟩
    exact ⟨mt empty.2 hne, fun c hc => mt (plain c hc).2 (hplain c hc), mt filled.2 hfilled⟩
  · rintro ⟨hne, hplain, hfilled⟩
    exact ⟨mt empty.1 hne, fun c hc => mt (plain c hc).1 (hplain c hc), mt filled.1 hfilled⟩

end Respelling

/-! ## Spellings -/

/-- The texts that a target is asked for with. -/
inductive Spelling where
  | cls (owner : String)
  | method (owner name descriptor : String)
  | field (owner name descriptor : String)
deriving DecidableEq, Repr

namespace Spelling

/-- What a target says of itself. -/
def ofTarget : Target → Spelling
  | .cls owner => .cls owner.text
  | .method owner name descriptor => .method owner.text name descriptor
  | .field owner name descriptor => .field owner.text name descriptor

/-- The target, without a look at the texts. -/
def target : Spelling → Target
  | .cls owner => .ofClass owner
  | .method owner name descriptor => .ofMethod owner name descriptor
  | .field owner name descriptor => .ofField owner name descriptor

def strict : Spelling → Except InvalidTarget Target
  | .cls owner => Target.strictClass owner
  | .method owner name descriptor => Target.strictMethod owner name descriptor
  | .field owner name descriptor => Target.strictField owner name descriptor

/-- Methods and fields each have their own validator of descriptors. -/
def WellFormed : Spelling → Prop
  | .cls owner => WellFormedOwner owner
  | .method owner name descriptor =>
    WellFormedOwner owner ∧ name ≠ "" ∧ Descriptor.checkMethod descriptor = .ok ()
  | .field owner name descriptor =>
    WellFormedOwner owner ∧ name ≠ "" ∧ Descriptor.checkField descriptor = .ok ()

/-! ## Objections -/

/-- All there is to say against an owner. -/
def ownerObjections (owner : String) : List InvalidTarget :=
  (if owner = "" then [.noOwner] else []) ++
    (if owner.toList.any (· ∈ [';', '[', '(', ')']) then
      [.badOwner owner .descriptorCharacter] else []) ++
    if [] ∈ owner.toList.splitOnP (· ∈ ['.', '/']) then [.badOwner owner .emptySegment] else []

/-- All there is to say against a name and a descriptor, of which its validator says `checked`. -/
def memberObjections (kind : Kind) (owner name descriptor : String)
    (checked : Except Descriptor.Malformed Unit) : List InvalidTarget :=
  (if name = "" then [.noMemberName kind owner] else []) ++
    match checked with
    | .ok () => []
    | .error cause => [.badDescriptor kind descriptor cause]

/-- All there is to say against the texts: the characters of the owner come before its segments,
the owner before the name, and the name before the descriptor. -/
def objections : Spelling → List InvalidTarget
  | .cls owner => ownerObjections owner
  | .method owner name descriptor => ownerObjections owner ++
    memberObjections .method owner name descriptor (Descriptor.checkMethod descriptor)
  | .field owner name descriptor => ownerObjections owner ++
    memberObjections .field owner name descriptor (Descriptor.checkField descriptor)

/-- Fails with the first objection. -/
def refuse : List InvalidTarget → Except InvalidTarget Unit
  | [] => .ok ()
  | e :: _ => .error e

theorem refuse_append (es fs : List InvalidTarget) :
    refuse (es ++ fs) = match refuse es with
      | .ok () => refuse fs
      | .error e => .error e := by
  cases es <;> rfl

theorem refuse_eq_ok_iff {es : List InvalidTarget} : refuse es = .ok () ↔ es = [] := by
  cases es <;> simp [refuse]

theorem refuse_eq_error_iff {es : List InvalidTarget} {e : InvalidTarget} :
    refuse es = .error e ↔ es.head? = some e := by
  cases es <;> simp [refuse]

theorem ownerObjections_eq_nil_iff {owner : String} :
    ownerObjections owner = [] ↔ WellFormedOwner owner := by
  have plain : ¬owner.toList.any (· ∈ [';', '[', '(', ')']) = true ↔
      ∀ c ∈ [';', '[', '(', ')'], c ∉ owner.toList := by
    rw [List.any_eq_true]
    simp only [decide_eq_true_eq, not_exists, not_and]
    exact forall_congr' fun c => imp_not_comm
  unfold ownerObjections
  simp only [List.append_eq_nil_iff, ite_eq_right_iff, List.cons_ne_nil, imp_false, plain]
  constructor
  · rintro ⟨⟨hne, hplain⟩, hfilled⟩
    exact ⟨hne, hplain, hfilled⟩
  · rintro ⟨hne, hplain, hfilled⟩
    exact ⟨⟨hne, hplain⟩, hfilled⟩

theorem memberObjections_eq_nil_iff {kind : Kind} {owner name descriptor : String}
    {checked : Except Descriptor.Malformed Unit} :
    memberObjections kind owner name descriptor checked = [] ↔ name ≠ "" ∧ checked = .ok () := by
  cases checked <;> simp [memberObjections]

theorem objections_eq_nil_iff {p : Spelling} : p.objections = [] ↔ p.WellFormed := by
  cases p with
  | cls owner => exact ownerObjections_eq_nil_iff
  | method owner name descriptor | field owner name descriptor =>
    unfold objections WellFormed
    rw [List.append_eq_nil_iff, ownerObjections_eq_nil_iff, memberObjections_eq_nil_iff]

/-! ## The checks find the first objection -/

theorem checkOwner_eq_refuse (owner : String) :
    Target.checkOwner owner = refuse (ownerObjections owner) := by
  unfold Target.checkOwner ownerObjections Target.isDescriptorCharacter Target.isPackageSeparator
  simp only [List.isEmpty_iff, String.toList_eq_nil_iff, hasEmptySegment_iff]
  split
  · rfl
  split
  · rfl
  split <;> rfl

theorem checkMember_eq_refuse (kind : Kind) (owner name descriptor : String) :
    Target.checkMember kind owner name descriptor =
      refuse (ownerObjections owner ++ memberObjections kind owner name descriptor
        (Target.checkDescriptor kind descriptor)) := by
  unfold Target.checkMember memberObjections
  rw [refuse_append, checkOwner_eq_refuse]
  cases refuse (ownerObjections owner) with
  | error e => rfl
  | ok =>
    simp only [List.isEmpty_iff, String.toList_eq_nil_iff]
    split
    · rfl
    · cases Target.checkDescriptor kind descriptor <;> rfl

theorem strict_eq (p : Spelling) : p.strict = (refuse p.objections).map fun () => p.target := by
  cases p with
  | cls owner => exact congrArg (Except.map _) (checkOwner_eq_refuse owner)
  | method owner name descriptor | field owner name descriptor =>
    exact congrArg (Except.map _) (checkMember_eq_refuse _ owner name descriptor)

theorem strict_eq_ok_iff {p : Spelling} {t : Target} :
    p.strict = .ok t ↔ p.WellFormed ∧ t = p.target := by
  rw [strict_eq, ← objections_eq_nil_iff, ← refuse_eq_ok_iff]
  cases refuse p.objections with
  | error e => simp [Except.map]
  | ok => simp [Except.map, eq_comm]

theorem strict_eq_error_iff {p : Spelling} {e : InvalidTarget} :
    p.strict = .error e ↔ p.objections.head? = some e := by
  rw [strict_eq, ← refuse_eq_error_iff]
  cases refuse p.objections <;> simp [Except.map]

/-! ## The target as a spelling of its own -/

theorem target_ofTarget (t : Target) : (ofTarget t).target = t := by
  cases t <;> simp [ofTarget, target, Target.ofClass, Target.ofMethod, Target.ofField]

theorem wellFormed_ofTarget_iff (p : Spelling) : (ofTarget p.target).WellFormed ↔ p.WellFormed := by
  cases p with
  | cls owner => exact respells_dotted.wellFormedOwner_iff owner
  | method owner name descriptor | field owner name descriptor =>
    exact and_congr_left' (respells_dotted.wellFormedOwner_iff owner)

end Spelling

/-- Where the texts are well formed, and only there, a strict maker gives the target that the
lenient one gives, which can be made again from what it says of itself. Otherwise the error is the
first of the objections. -/
theorem strict_iff_wellFormed (p : Spelling) :
    ((∃ t, p.strict = .ok t) ↔ p.WellFormed) ∧
      (∀ t, p.strict = .ok t → t = p.target ∧ (Spelling.ofTarget t).strict = .ok t) ∧
      ∀ e, p.strict = .error e ↔ p.objections.head? = some e := by
  refine ⟨?_, fun t made => ?_, fun e => Spelling.strict_eq_error_iff⟩
  · constructor
    · rintro ⟨t, made⟩
      exact (Spelling.strict_eq_ok_iff.1 made).1
    · intro ok
      exact ⟨p.target, Spelling.strict_eq_ok_iff.2 ⟨ok, rfl⟩⟩
  · obtain ⟨ok, rfl⟩ := Spelling.strict_eq_ok_iff.1 made
    refine ⟨rfl, Spelling.strict_eq_ok_iff.2 ⟨?_, ?_⟩⟩
    · exact (Spelling.wellFormed_ofTarget_iff p).2 ok
    · exact (Spelling.target_ofTarget p.target).symm

/-- With mixed separators the target has another spelling, and is made again from that. Of all that
is wrong with the other field, the owner's characters come first. -/
theorem strict_iff_wellFormed_mixed :
    let p : Spelling := .field "a/é.B" "f" "[I"
    let t : Target := .ofField "a.é.B" "f" "[I"
    p.strict = .ok t ∧ (Spelling.ofTarget t).strict = .ok t ∧
      (Spelling.field "a//(" "" "V").strict = .error (.badOwner "a//(" .descriptorCharacter) := by
  intro p t
  have ok : p.WellFormed := Spelling.objections_eq_nil_iff.1 rfl
  obtain ⟨u, made⟩ := (strict_iff_wellFormed p).1.2 ok
  obtain ⟨rfl, again⟩ := (strict_iff_wellFormed p).2.1 u made
  have same : p.target = t := by decide +kernel
  rw [same] at made again
  refine ⟨made, again, ?_⟩
  exact ((strict_iff_wellFormed (.field "a//(" "" "V")).2.2 _).2 rfl

end TransformRegistry
