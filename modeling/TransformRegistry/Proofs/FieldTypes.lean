import Mathlib.Data.List.TakeWhile
import TransformRegistry.Proofs.Grammar

/-!
# Which field types are read

The reader takes exactly the field types of the grammar off the front of the bytes, whatever comes
after them. No field type goes on where another has ended, so there is only one way to read it.
-/

namespace TransformRegistry.Descriptor

open Text

/-! ## Names -/

theorem segments_eq_splitOn {α : Type} [BEq α] (separator : α) (l : List α) :
    segments (· == separator) l = l.splitOn separator :=
  segments_eq_splitOnP _ l

theorem mem_intercalate {α : Type} {separator a : α} {pieces : List (List α)}
    (ha : a ∈ [separator].intercalate pieces) : a = separator ∨ ∃ s ∈ pieces, a ∈ s := by
  induction pieces with
  | nil => cases ha
  | cons s rest ih =>
    cases rest with
    | nil =>
      rw [List.intercalate_singleton] at ha
      exact .inr ⟨s, List.mem_cons_self, ha⟩
    | cons t rest =>
      rw [List.intercalate_cons_cons, List.append_assoc] at ha
      rcases List.mem_append.1 ha with here | later
      · exact .inr ⟨s, List.mem_cons_self, here⟩
      · rcases List.mem_cons.1 later with between | later
        · exact .inl between
        · rcases ih later with between | ⟨u, hu, inside⟩
          · exact .inl between
          · exact .inr ⟨u, List.mem_cons_of_mem _ hu, inside⟩

theorem isReservedInName_iff {b : UInt8} :
    isReservedInName b = true ↔ b = byte '.' ∨ b = byte '[' ∨ b = byte '(' ∨ b = byte ')' := by
  simp [isReservedInName]

theorem hasEmptySegment_eq_false_iff {α : Type} [BEq α] {separator : α} {l : List α} :
    hasEmptySegment (· == separator) l = false ↔ ∀ s ∈ l.splitOn separator, s ≠ [] := by
  rw [← Bool.not_eq_true, hasEmptySegment_iff, ← List.splitOn_eq_splitOnP]
  exact List.forall_mem_ne'.symm

theorem nameFault?_eq_none_iff {name : List UInt8} :
    nameFault? name = none ↔ name ≠ [] ∧ (∀ b ∈ name, isReservedInName b = false) ∧
      hasEmptySegment (· == byte '/') name = false := by
  unfold nameFault?
  cases name with
  | nil => simp
  | cons b rest =>
    cases found : (b :: rest).findIdx? isReservedInName with
    | some i =>
      have faulty : (b :: rest).any isReservedInName = true := by
        rw [← List.findIdx?_isSome, found]
        rfl
      obtain ⟨bad, hbad, faulty⟩ := List.any_eq_true.1 faulty
      simp only [List.isEmpty_cons, Bool.false_eq_true, if_false, reduceCtorEq, false_iff]
      rintro ⟨-, plain, -⟩
      rw [plain bad hbad] at faulty
      cases faulty
    | none =>
      have plain := List.findIdx?_eq_none_iff.1 found
      cases empty : hasEmptySegment (· == byte '/') (b :: rest) with
      | true => simp
      | false => exact iff_of_true rfl ⟨List.cons_ne_nil _ _, plain, rfl⟩

theorem objectName_iff {name : List UInt8} :
    ObjectName byte name ↔ nameFault? name = none ∧ byte ';' ∉ name := by
  rw [nameFault?_eq_none_iff, hasEmptySegment_eq_false_iff]
  constructor
  · rintro @⟨pieces, some, ok⟩
    have own : ∀ c ∈ segmentBreaks, c ≠ '/' → byte c ∉ [byte '/'].intercalate pieces := by
      intro c hc other hb
      rcases mem_intercalate hb with between | ⟨s, hs, inside⟩
      · have ascii := isAscii_of_mem_segmentBreaks c hc
        exact other ((toUInt8_inj_of_ascii ascii (by decide)).1 between)
      · exact (ok s hs).unbroken c hc inside
    refine ⟨⟨?_, ?_, ?_⟩, own ';' (by decide) (by decide)⟩
    · intro none
      obtain ⟨s, rest, rfl⟩ := List.exists_cons_of_ne_nil some
      have first := (ok s List.mem_cons_self).nonempty
      cases rest with
      | nil => exact first (by simpa using none)
      | cons t rest => simp [first] at none
    · intro b hb
      refine Bool.eq_false_iff.2 fun reserved => ?_
      rcases isReservedInName_iff.1 reserved with rfl | rfl | rfl | rfl
      · exact own '.' (by decide) (by decide) hb
      · exact own '[' (by decide) (by decide) hb
      · exact own '(' (by decide) (by decide) hb
      · exact own ')' (by decide) (by decide) hb
    · rw [List.splitOn_intercalate _ (fun s hs => (ok s hs).unbroken '/' (by decide)) some]
      exact fun s hs => (ok s hs).nonempty
  · rintro ⟨⟨-, unreserved, filled⟩, unclosed⟩
    have joined : name = [byte '/'].intercalate (name.splitOn (byte '/')) :=
      (List.intercalate_splitOn _).symm
    rw [joined]
    refine .join (List.splitOn_ne_nil _ _) fun s hs => ⟨filled s hs, fun c hc inside => ?_⟩
    rw [← segments_eq_splitOn] at hs
    obtain ⟨within, notSlash⟩ := mem_segments_iff.1 ⟨s, hs, inside⟩
    have plain := unreserved _ within
    simp only [segmentBreaks, List.mem_cons, List.not_mem_nil, or_false] at hc
    rcases hc with rfl | rfl | rfl | rfl | rfl | rfl
    · cases plain
    · exact unclosed within
    · cases plain
    · cases plain
    · cases plain
    · cases notSlash

/-! ## Reading -/

variable {c d : Cursor}

theorem rest_skip_of_append {front after : List UInt8} (hc : front ++ after = c.rest) :
    (c.skip front.length).rest = after := by
  rw [Cursor.rest_skip, ← hc, List.drop_left]

theorem readObjectType_of_unterminated (hc : byte ';' ∉ c.rest.drop 1) :
    readObjectType c = .error ⟨c.pos, .unterminatedObjectType⟩ := by
  have all : (c.rest.drop 1).takeWhile (· != byte ';') = c.rest.drop 1 := by
    rw [List.takeWhile_eq_self_iff]
    intro b hb
    have other : b ≠ byte ';' := ne_of_mem_of_not_mem hb hc
    simpa using other
  unfold readObjectType
  simp only [Cursor.rest_skip, all, if_true]

theorem readObjectType_of_name {name after : List UInt8}
    (hc : c.rest.drop 1 = name ++ byte ';' :: after) (hn : byte ';' ∉ name) :
    readObjectType c = (nameFault? name).elim (.ok (c.skip (name.length + 2)))
      fun (i, fault) => .error ⟨c.pos + 1 + i, fault⟩ := by
  have first : (c.rest.drop 1).takeWhile (· != byte ';') = name := by
    rw [hc, List.takeWhile_append_of_pos fun b hb => by
      have other : b ≠ byte ';' := ne_of_mem_of_not_mem hb hn
      simpa using other]
    simp
  have longer : ¬name.length = (c.rest.drop 1).length := by
    rw [hc]
    simp
  unfold readObjectType
  simp only [Cursor.rest_skip, Cursor.pos_skip, Cursor.skip_skip, first, if_neg longer]
  cases nameFault? name with
  | some fault => rfl
  | none => rw [Nat.add_comm 1, Nat.add_assoc, Option.elim_none]

theorem readObjectType_eq_ok_iff {tail : List UInt8} (hc : c.rest = byte 'L' :: tail) :
    readObjectType c = .ok d ↔ ∃ name after, ObjectName byte name ∧
      tail = name ++ byte ';' :: after ∧ d = c.skip (name.length + 2) := by
  have body : c.rest.drop 1 = tail := by
    rw [hc]
    rfl
  constructor
  · intro read
    by_cases ends : byte ';' ∈ tail
    · obtain ⟨name, after, rfl, hn⟩ := List.eq_append_cons_of_mem ends
      rw [readObjectType_of_name body hn] at read
      cases sound : nameFault? name with
      | some fault =>
        rw [sound] at read
        cases read
      | none =>
        rw [sound] at read
        cases read
        exact ⟨name, after, objectName_iff.2 ⟨sound, hn⟩, rfl, rfl⟩
    · rw [readObjectType_of_unterminated (body ▸ ends)] at read
      cases read
  · rintro ⟨name, after, ok, rfl, rfl⟩
    obtain ⟨sound, hn⟩ := objectName_iff.1 ok
    rw [readObjectType_of_name body hn, sound, Option.elim_none]

theorem isBaseTag_iff {b : UInt8} : isBaseTag b = true ↔ ∃ tag ∈ baseTags, byte tag = b := by
  rw [isBaseTag, decide_eq_true_iff]
  exact List.mem_map

theorem readElementType_eq_ok_iff :
    readElementType c = .ok d ↔
      ∃ element, ElementType byte element ∧ element <+: c.rest ∧ d = c.skip element.length := by
  cases hc : c.rest with
  | nil =>
    unfold readElementType
    rw [hc]
    constructor
    · intro read
      cases read
    · rintro ⟨element, ok, within, -⟩
      obtain rfl := List.prefix_nil.1 within
      cases ok
  | cons tag tail =>
    constructor
    · intro read
      unfold readElementType at read
      rw [hc] at read
      dsimp only at read
      split at read
      · next base =>
        cases read
        obtain ⟨t, ht, rfl⟩ := isBaseTag_iff.1 base
        exact ⟨[byte t], .base ht, by simp, rfl⟩
      · split at read
        · next object =>
          subst object
          obtain ⟨name, after, ok, rfl, rfl⟩ := (readObjectType_eq_ok_iff hc).1 read
          exact ⟨_, .object ok, by simp, by simp⟩
        · split at read <;> cases read
    · rintro ⟨element, ok, ⟨after, within⟩, rfl⟩
      unfold readElementType
      rw [hc]
      dsimp only
      cases ok with
      | @base t ht =>
        obtain ⟨rfl, rfl⟩ := List.cons.inj within
        rw [if_pos (isBaseTag_iff.2 ⟨t, ht, rfl⟩)]
        rfl
      | @object name ok =>
        obtain ⟨rfl, rfl⟩ := List.cons.inj within
        rw [if_neg (by decide), if_pos rfl]
        exact (readObjectType_eq_ok_iff hc).2 ⟨name, after, ok, by simp, by simp⟩

theorem ElementType.head_mem {element : List UInt8} (ok : ElementType byte element) :
    ∃ tag ∈ 'L' :: baseTags, ∃ tail, element = byte tag :: tail := by
  cases ok with
  | @base tag ht => exact ⟨tag, List.mem_cons_of_mem _ ht, [], rfl⟩
  | @object name => exact ⟨'L', List.mem_cons_self, name ++ [byte ';'], rfl⟩

theorem dimensions_replicate_append {k : Nat} {element after : List UInt8}
    (ok : ElementType byte element) :
    dimensions (List.replicate k (byte '[') ++ element ++ after) = k := by
  have all : ('L' :: baseTags).all (byte · ≠ byte '[') = true := by decide
  obtain ⟨tag, ht, tail, rfl⟩ := ok.head_mem
  have other : byte tag ≠ byte '[' := of_decide_eq_true (List.all_eq_true.1 all tag ht)
  unfold dimensions
  rw [List.append_assoc, List.takeWhile_append_of_pos fun c hc => by
    rw [List.eq_of_mem_replicate hc]
    rfl]
  simp [other]

theorem replicate_dimensions_append (bytes : List UInt8) :
    List.replicate (dimensions bytes) (byte '[') ++ bytes.drop (dimensions bytes) = bytes := by
  have opening : bytes.take (dimensions bytes) = List.replicate (dimensions bytes) (byte '[') := by
    rw [dimensions, ← List.prefix_iff_eq_take.1 (List.takeWhile_prefix _)]
    exact List.eq_replicate_iff.2 ⟨rfl, fun b hb => by simpa using List.mem_takeWhile_imp hb⟩
  rw [← opening, List.take_append_drop]

theorem readFieldType_eq_ok_iff :
    readFieldType c = .ok d ↔
      ∃ type, FieldType byte type ∧ type <+: c.rest ∧ d = c.skip type.length := by
  unfold readFieldType
  constructor
  · intro read
    split at read
    · cases read
    · next bounded =>
      obtain ⟨element, ok, ⟨after, within⟩, rfl⟩ := readElementType_eq_ok_iff.1 read
      refine ⟨_, .array (Nat.not_lt.1 bounded) ok, ⟨after, ?_⟩, ?_⟩
      · rw [List.append_assoc, within]
        exact replicate_dimensions_append c.rest
      · rw [Cursor.skip_skip, List.length_append, List.length_replicate]
  · rintro ⟨type, @⟨k, element, bounded, ok⟩, ⟨after, within⟩, rfl⟩
    have count : dimensions c.rest = k := by rw [← within, dimensions_replicate_append ok]
    have within255 : ¬dimensionLimit < k := Nat.not_lt.2 bounded
    rw [count, if_neg within255]
    refine readElementType_eq_ok_iff.2 ⟨element, ok, ⟨after, ?_⟩, ?_⟩
    · rw [Cursor.rest_skip, ← within, List.append_assoc]
      simp
    · rw [Cursor.skip_skip, List.length_append, List.length_replicate]

theorem FieldType.read {type : List UInt8} (ok : FieldType byte type) (within : type <+: c.rest) :
    readFieldType c = .ok (c.skip type.length) :=
  readFieldType_eq_ok_iff.2 ⟨type, ok, within, rfl⟩

/-! ## One way to read it -/

theorem FieldType.head_mem {type : List UInt8} (ok : FieldType byte type) :
    ∃ tag ∈ '[' :: 'L' :: baseTags, ∃ tail, type = byte tag :: tail := by
  obtain @⟨k, element, -, ok⟩ := ok
  cases k with
  | zero =>
    obtain ⟨tag, ht, tail, rfl⟩ := ok.head_mem
    exact ⟨tag, List.mem_cons_of_mem _ ht, tail, rfl⟩
  | succ k => exact ⟨'[', List.mem_cons_self, _, rfl⟩

/-- The reader stops at one place only. -/
theorem FieldType.unique {type other bytes : List UInt8} (ht : FieldType byte type)
    (ho : FieldType byte other) (within : type <+: bytes) (withinOther : other <+: bytes) :
    type = other := by
  have read := ht.read (c := .start bytes) within
  rw [ho.read withinOther] at read
  have same := congrArg Cursor.pos (Except.ok.inj read.symm)
  have length : type.length = other.length := by simpa using same
  exact (List.prefix_of_prefix_length_le within withinOther length.le).eq_of_length length

/-! ## Whole descriptors -/

variable {fault : Fault}

theorem expectEnd_eq_ok_iff : c.expectEnd fault = .ok () ↔ c.rest = [] := by
  unfold Cursor.expectEnd
  cases c.rest <;> simp

theorem expectEnd_of_ne_nil (hc : c.rest ≠ []) : c.expectEnd fault = .error ⟨c.pos, fault⟩ := by
  have unread : c.rest.isEmpty = false := by simpa using hc
  unfold Cursor.expectEnd
  rw [unread]
  rfl

theorem position_of_expectEnd {e : Malformed} (failed : c.expectEnd fault = .error e) :
    e.position = c.pos := by
  unfold Cursor.expectEnd at failed
  split at failed
  · cases failed
  · cases failed
    rfl

theorem checkFieldBytes_append {type : List UInt8} (ok : FieldType byte type)
    (after : List UInt8) :
    checkFieldBytes (type ++ after) =
      Cursor.expectEnd ⟨type.length, after⟩ .trailingAfterFieldType := by
  unfold checkFieldBytes
  rw [ok.read (List.prefix_append type after)]
  simp [Cursor.start, Cursor.skip]

theorem checkFieldBytes_eq_ok_iff {bytes : List UInt8} :
    checkFieldBytes bytes = .ok () ↔ FieldType byte bytes := by
  constructor
  · intro accepted
    unfold checkFieldBytes at accepted
    split at accepted
    · cases accepted
    · next read =>
      obtain ⟨type, ok, ⟨after, start⟩, rfl⟩ := readFieldType_eq_ok_iff.1 read
      have ended := expectEnd_eq_ok_iff.1 accepted
      rw [rest_skip_of_append start] at ended
      rw [ended, List.append_nil] at start
      subst start
      exact ok
  · intro ok
    rw [← List.append_nil bytes, checkFieldBytes_append ok]
    rfl

theorem checkField_eq_ok_iff {text : String} : checkField text = .ok () ↔ IsFieldType text := by
  rw [isFieldType_iff]
  exact checkFieldBytes_eq_ok_iff

/-- A text is accepted where it is a field type, and then nothing longer is: the fault lies where
the field type ends. -/
theorem checkField_grammar (text : String) :
    (checkField text = .ok () ↔ IsFieldType text) ∧
      (checkField text = .ok () → ∀ more ≠ "",
        checkField (text ++ more) = .error ⟨text.utf8ByteSize, .trailingAfterFieldType⟩) := by
  refine ⟨checkField_eq_ok_iff, fun accepted more some => ?_⟩
  have ok := isFieldType_iff.1 (checkField_eq_ok_iff.1 accepted)
  have unread : utf8 more ≠ [] := fun none => some (utf8_inj.1 none)
  rw [checkField, utf8_append, checkFieldBytes_append ok, ← length_utf8]
  exact expectEnd_of_ne_nil unread

theorem checkField_grammar_object :
    checkField "[Lé/B;" = .ok () ∧ "[" ≠ "" ∧
      checkField ("[Lé/B;" ++ "[") = .error ⟨7, .trailingAfterFieldType⟩ := by
  have accepted : checkField "[Lé/B;" = .ok () := by decide
  have some : "[" ≠ "" := by decide
  exact ⟨accepted, some, (checkField_grammar _).2 accepted "[" some⟩

end TransformRegistry.Descriptor
