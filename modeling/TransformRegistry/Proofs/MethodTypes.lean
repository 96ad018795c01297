import Mathlib.Logic.ExistsUnique
import TransformRegistry.Proofs.FieldTypes

/-!
# Which method types are read

The reader of method types leaves every parameter and the result to the reader of field types. As a
field type ends in one place only, a method type falls into parameters and result in one way.
-/

namespace TransformRegistry.Descriptor

open Text

variable {c d : Cursor}

/-! ## Parameters -/

theorem FieldType.head_ne {b : UInt8} {type tail : List UInt8} (ok : FieldType byte type)
    (hb : b = byte ')' ∨ b = byte 'V') : ¬type <+: b :: tail := by
  have all : ('[' :: 'L' :: baseTags).all (fun tag => byte tag ≠ byte ')' ∧ byte tag ≠ byte 'V') =
      true := by decide
  obtain ⟨tag, ht, more, rfl⟩ := ok.head_mem
  have other := of_decide_eq_true (List.all_eq_true.1 all tag ht)
  intro within
  have same := (List.cons_prefix_cons.1 within).1
  rcases hb with rfl | rfl
  · exact other.1 same
  · exact other.2 same

theorem readParameters_of_close {after : List UInt8} (hc : c.rest = byte ')' :: after) :
    readParameters c = .ok (c.skip 1) := by
  rw [readParameters, hc]
  rfl

theorem readParameters_of_read {b : UInt8} {after : List UInt8} (hc : c.rest = b :: after)
    (hb : b ≠ byte ')') (read : readFieldType c = .ok d) :
    readParameters c = readParameters d := by
  rw [readParameters, hc]
  dsimp only
  rw [if_neg hb]
  split
  · next failed =>
    rw [read] at failed
    cases failed
  · next next read' =>
    rw [read] at read'
    cases read'
    rfl

theorem readParameters_of_failed {b : UInt8} {after : List UInt8} {e : Malformed}
    (hc : c.rest = b :: after) (hb : b ≠ byte ')') (failed : readFieldType c = .error e) :
    readParameters c = .error e := by
  rw [readParameters, hc]
  dsimp only
  rw [if_neg hb]
  split
  · next other =>
    rw [failed] at other
    cases other
    rfl
  · next read =>
    rw [failed] at read
    cases read

theorem readParameters_of_types {types : List (List UInt8)} (ok : ∀ t ∈ types, FieldType byte t)
    (within : types.flatten ++ [byte ')'] <+: c.rest) :
    readParameters c = .ok (c.skip (types.flatten.length + 1)) := by
  induction types generalizing c with
  | nil =>
    obtain ⟨after, hc⟩ := within
    exact readParameters_of_close hc.symm
  | cons type types ih =>
    rw [List.forall_mem_cons] at ok
    obtain ⟨after, hc⟩ := within
    rw [List.flatten_cons, List.append_assoc, List.append_assoc] at hc
    have start : type <+: c.rest := ⟨_, hc⟩
    obtain ⟨b, tail, rest⟩ : ∃ b tail, c.rest = b :: tail := by
      obtain ⟨tag, -, tail, rfl⟩ := ok.1.head_mem
      exact ⟨_, _, hc.symm⟩
    have notClose : b ≠ byte ')' := by
      rintro rfl
      exact ok.1.head_ne (.inl rfl) (rest ▸ start)
    have later : types.flatten ++ [byte ')'] <+: (c.skip type.length).rest := by
      rw [rest_skip_of_append hc, ← List.append_assoc]
      exact List.prefix_append _ _
    rw [readParameters_of_read rest notClose (ok.1.read start), ih ok.2 later]
    rw [Cursor.skip_skip, List.flatten_cons, List.length_append, Nat.add_assoc]

theorem types_of_readParameters (read : readParameters c = .ok d) :
    ∃ types : List (List UInt8), (∀ t ∈ types, FieldType byte t) ∧
      types.flatten ++ [byte ')'] <+: c.rest ∧ d = c.skip (types.flatten.length + 1) := by
  revert read
  fun_induction readParameters c with
  | case1 => exact fun read => nomatch read
  | case2 c after hc =>
    rintro ⟨⟩
    exact ⟨[], by simp, ⟨after, hc.symm⟩, rfl⟩
  | case3 => exact fun read => nomatch read
  | case4 c b after hc hb next readNext ih =>
    intro read
    obtain ⟨type, okType, ⟨rest, start⟩, rfl⟩ := readFieldType_eq_ok_iff.1 readNext
    obtain ⟨types, ok, ⟨more, within⟩, rfl⟩ := ih read
    rw [rest_skip_of_append start] at within
    refine ⟨type :: types, List.forall_mem_cons.2 ⟨okType, ok⟩, ⟨more, ?_⟩, ?_⟩
    · rw [← start, ← within]
      simp
    · rw [Cursor.skip_skip, List.flatten_cons, List.length_append, Nat.add_assoc]

/-! ## Results -/

def ResultType (bytes : List UInt8) : Prop := bytes = [byte 'V'] ∨ FieldType byte bytes

theorem readReturnType_eq_ok_iff :
    readReturnType c = .ok d ↔
      ∃ result, ResultType result ∧ result <+: c.rest ∧ d = c.skip result.length := by
  unfold readReturnType
  constructor
  · intro read
    split at read
    · cases read
    · next b after hc =>
      split at read
      · next void =>
        cases read
        subst void
        exact ⟨[byte 'V'], .inl rfl, ⟨after, hc.symm⟩, rfl⟩
      · obtain ⟨type, ok, within, rfl⟩ := readFieldType_eq_ok_iff.1 read
        exact ⟨type, .inr ok, within, rfl⟩
  · rintro ⟨result, rfl | ok, within, rfl⟩
    · obtain ⟨after, hc⟩ := within
      rw [← hc]
      rfl
    · cases hc : c.rest with
      | nil =>
        obtain ⟨tag, -, tail, rfl⟩ := ok.head_mem
        rw [hc] at within
        cases List.prefix_nil.1 within
      | cons b after =>
        have other : b ≠ byte 'V' := by
          rintro rfl
          exact ok.head_ne (.inr rfl) (hc ▸ within)
        dsimp only
        rw [if_neg other]
        exact ok.read within

/-! ## Whole descriptors -/

/-- The bytes of a method type with these parameters and this result. -/
def methodBytes (types : List (List UInt8)) (result : List UInt8) : List UInt8 :=
  byte '(' :: (types.flatten ++ byte ')' :: result)

theorem checkMethodBytes_eq_ok_iff {bytes : List UInt8} :
    checkMethodBytes bytes = .ok () ↔
      ∃ types result, (∀ t ∈ types, FieldType byte t) ∧ ResultType result ∧
        methodBytes types result = bytes := by
  unfold checkMethodBytes
  constructor
  · intro accepted
    split at accepted
    · cases accepted
    · next opened =>
      obtain ⟨inner, rfl⟩ := List.head?_eq_some_iff.1 (Decidable.not_not.1 opened)
      split at accepted
      · cases accepted
      · next readTypes =>
        obtain ⟨types, okTypes, ⟨after, within⟩, rfl⟩ := types_of_readParameters readTypes
        split at accepted
        · cases accepted
        · next readResult =>
          obtain ⟨result, okResult, ⟨more, start⟩, rfl⟩ := readReturnType_eq_ok_iff.1 readResult
          have ended := expectEnd_eq_ok_iff.1 accepted
          rw [rest_skip_of_append start] at ended
          have left := rest_skip_of_append within
          rw [List.length_append, List.length_singleton, ← start, ended, List.append_nil] at left
          refine ⟨types, result, okTypes, okResult, ?_⟩
          rw [methodBytes, left, List.append_cons, within]
          rfl
  · rintro ⟨types, result, okTypes, okResult, rfl⟩
    have within : types.flatten ++ [byte ')'] ++ result =
        ((Cursor.start (methodBytes types result)).skip 1).rest := (List.append_cons _ _ _).symm
    have left := rest_skip_of_append within
    rw [List.length_append, List.length_singleton] at left
    have readTypes := readParameters_of_types okTypes ⟨result, within⟩
    rw [if_neg (by simp [methodBytes]), readTypes]
    generalize ((Cursor.start _).skip 1).skip _ = c at left
    subst left
    have readResult := readReturnType_eq_ok_iff.2 ⟨c.rest, okResult, List.prefix_refl _, rfl⟩
    dsimp only
    rw [readResult]
    exact expectEnd_eq_ok_iff.2 List.drop_length

/-- The parenthesis after the parameters is found by reading them. -/
theorem methodBytes_inj {types others : List (List UInt8)} {result other : List UInt8}
    (ok : ∀ t ∈ types, FieldType byte t) (okOthers : ∀ t ∈ others, FieldType byte t)
    (same : methodBytes types result = methodBytes others other) :
    types = others ∧ result = other := by
  replace same := (List.cons.inj same).2
  induction types generalizing others with
  | nil =>
    cases others with
    | nil => exact ⟨rfl, (List.cons.inj same).2⟩
    | cons type others =>
      rw [List.forall_mem_cons] at okOthers
      rw [List.flatten_cons, List.append_assoc] at same
      exact absurd ⟨_, same.symm⟩ (okOthers.1.head_ne (.inl rfl))
  | cons type types ih =>
    rw [List.forall_mem_cons] at ok
    cases others with
    | nil =>
      rw [List.flatten_cons, List.append_assoc] at same
      exact absurd ⟨_, same⟩ (ok.1.head_ne (.inl rfl))
    | cons otherType others =>
      rw [List.forall_mem_cons] at okOthers
      rw [List.flatten_cons, List.flatten_cons, List.append_assoc, List.append_assoc] at same
      obtain rfl := ok.1.unique okOthers.1 (List.prefix_append _ _) ⟨_, same.symm⟩
      obtain ⟨rfl, rfl⟩ := ih ok.2 okOthers.2 (List.append_cancel_left same)
      exact ⟨rfl, rfl⟩

/-! ## Texts -/

theorem utf8_join (texts : List String) : utf8 (String.join texts) = (texts.map utf8).flatten := by
  induction texts with
  | nil => rfl
  | cons t rest ih => rw [String.join_cons, utf8_append, ih, List.map_cons, List.flatten_cons]

theorem fieldTypes_of_accepted {texts : List String} (ok : ∀ t ∈ texts, checkField t = .ok ()) :
    ∀ t ∈ texts.map utf8, FieldType byte t := by
  intro t ht
  obtain ⟨text, hText, rfl⟩ := List.mem_map.1 ht
  exact checkFieldBytes_eq_ok_iff.1 (ok text hText)

theorem accepted_of_fieldTypes {texts : List String}
    (ok : ∀ t ∈ texts.map utf8, FieldType byte t) : ∀ t ∈ texts, checkField t = .ok () :=
  fun _ ht => checkFieldBytes_eq_ok_iff.2 (ok _ (List.mem_map_of_mem ht))

theorem ResultType.accepted {text : String} (ok : ResultType (utf8 text)) :
    text = "V" ∨ checkField text = .ok () := by
  rcases ok with void | okField
  · exact .inl (utf8_inj.1 void)
  · exact .inr (checkFieldBytes_eq_ok_iff.2 okField)

/-- What a method type is put together from. -/
structure MethodParts where
  parameters : List String
  result : String

namespace MethodParts

def text (m : MethodParts) : String := "(" ++ String.join m.parameters ++ ")" ++ m.result

/-- Every parameter is accepted as a field type, and so is the result where it is not `V`. -/
structure Accepted (m : MethodParts) : Prop where
  parameters : ∀ p ∈ m.parameters, checkField p = .ok ()
  result : m.result = "V" ∨ checkField m.result = .ok ()

variable {m n : MethodParts}

theorem utf8_text (m : MethodParts) :
    utf8 m.text = methodBytes (m.parameters.map utf8) (utf8 m.result) := by
  rw [text, utf8_append, utf8_append, utf8_append, utf8_join, List.append_assoc, List.append_assoc]
  rfl

theorem Accepted.fieldTypes (ok : m.Accepted) : ∀ t ∈ m.parameters.map utf8, FieldType byte t :=
  fieldTypes_of_accepted ok.parameters

theorem Accepted.resultType (ok : m.Accepted) : ResultType (utf8 m.result) := by
  rcases ok.result with void | accepted
  · exact .inl (by rw [void]; rfl)
  · exact .inr (checkFieldBytes_eq_ok_iff.1 accepted)

theorem Accepted.eq_of_text (ok : m.Accepted) (okOther : n.Accepted)
    (same : m.text = n.text) : m = n := by
  have bytes := congrArg utf8 same
  rw [utf8_text, utf8_text] at bytes
  obtain ⟨parameters, result⟩ :=
    methodBytes_inj ok.fieldTypes okOther.fieldTypes bytes
  cases m
  cases n
  congr
  · exact (List.map_inj_right fun _ _ => utf8_inj.1).1 parameters
  · exact utf8_inj.1 result

end MethodParts

theorem FieldType.ends_ascii {type : List UInt8} (ok : FieldType byte type) :
    ∃ front last, IsAscii last ∧ type = front ++ [byte last] := by
  obtain @⟨k, element, -, ok⟩ := ok
  cases ok with
  | @base tag ht => exact ⟨_, tag, isAscii_of_mem_baseTags tag ht, rfl⟩
  | @object name =>
    exact ⟨List.replicate k (byte '[') ++ byte 'L' :: name, ';', by decide, by simp⟩

theorem ResultType.ends_ascii {result : List UInt8} (ok : ResultType result) :
    ∃ front last, IsAscii last ∧ result = front ++ [byte last] := by
  rcases ok with rfl | ok
  · exact ⟨[], 'V', by decide, rfl⟩
  · exact ok.ends_ascii

theorem texts_of_flatten {types : List (List UInt8)} (ok : ∀ t ∈ types, FieldType byte t)
    {cs : List Char} {after : List UInt8} (spelled : encode cs = types.flatten ++ after) :
    ∃ (texts : List String) (rest : List Char), types = texts.map utf8 ∧ after = encode rest := by
  induction types generalizing cs with
  | nil => exact ⟨[], cs, rfl, spelled.symm⟩
  | cons type types ih =>
    rw [List.forall_mem_cons] at ok
    rw [List.flatten_cons, List.append_assoc] at spelled
    obtain ⟨first, more, rfl, rfl, later⟩ :=
      text_of_append_of_ends_ascii ok.1.ends_ascii spelled.symm
    obtain ⟨texts, rest, rfl, rfl⟩ := ih ok.2 later.symm
    exact ⟨String.ofList first :: texts, rest, by rw [List.map_cons, utf8_ofList], rfl⟩

theorem exists_parts_of_methodBytes {text : String} {types : List (List UInt8)}
    {result : List UInt8} (ok : ∀ t ∈ types, FieldType byte t) (okResult : ResultType result)
    (spelled : methodBytes types result = utf8 text) :
    ∃ m : MethodParts, m.Accepted ∧ m.text = text := by
  obtain ⟨inner, opened, rest⟩ := encode_eq_cons (a := '(') (by decide) spelled.symm
  obtain ⟨texts, closed, rfl, more⟩ := texts_of_flatten ok rest.symm
  obtain ⟨last, rfl, rfl⟩ := encode_eq_cons (a := ')') (by decide) more.symm
  rw [← utf8_ofList last] at okResult spelled
  refine ⟨⟨texts, String.ofList last⟩, ⟨accepted_of_fieldTypes ok, okResult.accepted⟩, ?_⟩
  rw [← utf8_inj, MethodParts.utf8_text, ← spelled]

theorem checkMethod_eq_ok_iff {text : String} :
    checkMethod text = .ok () ↔ ∃ m : MethodParts, m.Accepted ∧ m.text = text := by
  refine checkMethodBytes_eq_ok_iff.trans ⟨?_, ?_⟩
  · rintro ⟨types, result, ok, okResult, spelled⟩
    exact exists_parts_of_methodBytes ok okResult spelled
  · rintro ⟨m, ok, rfl⟩
    exact ⟨_, _, ok.fieldTypes, ok.resultType, m.utf8_text.symm⟩

/-- A text is accepted where it is put together from accepted field types, and then it is so in one
way. -/
theorem checkMethod_composed (text : String) :
    (checkMethod text = .ok () ↔ ∃ m : MethodParts, m.Accepted ∧ m.text = text) ∧
      (checkMethod text = .ok () → ∃! m : MethodParts, m.Accepted ∧ m.text = text) := by
  refine ⟨checkMethod_eq_ok_iff, fun accepted => ?_⟩
  obtain ⟨m, ok, spelled⟩ := checkMethod_eq_ok_iff.1 accepted
  refine ⟨m, ⟨ok, spelled⟩, fun n ⟨okOther, same⟩ => ?_⟩
  exact okOther.eq_of_text ok (same.trans spelled.symm)

theorem checkMethod_composed_object :
    checkMethod "([LV/é;I)[J" = .ok () ∧
      ∃! m : MethodParts, m.Accepted ∧ m.text = "([LV/é;I)[J" := by
  have parts : MethodParts.Accepted ⟨["[LV/é;", "I"], "[J"⟩ := ⟨by decide, .inr (by decide)⟩
  have accepted : checkMethod "([LV/é;I)[J" = .ok () :=
    (checkMethod_composed _).1.2 ⟨_, parts, by decide⟩
  exact ⟨accepted, (checkMethod_composed _).2 accepted⟩

end TransformRegistry.Descriptor
