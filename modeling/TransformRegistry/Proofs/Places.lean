import TransformRegistry.Descriptor.ByPlace
import TransformRegistry.Proofs.FaultPlaces

/-!
# Reading by place comes to the same

Whether a place moves on in the bytes of a descriptor or a cursor gives them up, a descriptor is
read alike, and no slice of the bytes is ever out of range. A field type is read from its own bytes
alone, and it ends further on than it starts.
-/

namespace TransformRegistry.Descriptor

open Text

variable {bytes other : List UInt8} {start stop pos : Nat}

/-! ## Places and cursors -/

/-- The cursor at a place in the bytes. -/
def Cursor.into (bytes : List UInt8) (pos : Nat) : Cursor := ⟨pos, bytes.drop pos⟩

@[simp] theorem Cursor.pos_into (bytes : List UInt8) (pos : Nat) :
    (Cursor.into bytes pos).pos = pos := rfl

@[simp] theorem Cursor.rest_into (bytes : List UInt8) (pos : Nat) :
    (Cursor.into bytes pos).rest = bytes.drop pos := rfl

@[simp] theorem Cursor.skip_into (bytes : List UInt8) (pos n : Nat) :
    (Cursor.into bytes pos).skip n = Cursor.into bytes (pos + n) := by
  simp [Cursor.into, Cursor.skip]

theorem drop_of_none (h : bytes[pos]? = none) : bytes.drop pos = [] := by
  rw [List.drop_eq_nil_iff]
  exact List.getElem?_eq_none_iff.1 h

theorem drop_of_some {b : UInt8} (h : bytes[pos]? = some b) :
    bytes.drop pos = b :: bytes.drop (pos + 1) := by
  obtain ⟨within, rfl⟩ := List.getElem?_eq_some_iff.1 h
  exact List.drop_eq_getElem_cons within

theorem extract?_eq (ordered : start ≤ stop) (within : stop ≤ bytes.length) :
    extract? bytes start stop = some (bytes.extract start stop) :=
  if_pos ⟨ordered, within⟩

theorem extract?_to_end (within : start ≤ bytes.length) :
    extract? bytes start bytes.length = some (bytes.drop start) := by
  rw [extract?_eq within (Nat.le_refl _), List.extract_eq_take_drop, List.take_of_length_le]
  rw [List.length_drop]

theorem idxOf?_of_first {before after : List UInt8} {b : UInt8} (first : b ∉ before) :
    (before ++ b :: after).idxOf? b = some before.length := by
  have unfound : before.findIdx? (· == b) = none := List.idxOf?_eq_none_iff.2 first
  rw [List.idxOf?, List.findIdx?_append, unfound, List.findIdx?_cons]
  simp

theorem objectTypeEnd?_eq (within : pos < bytes.length) :
    objectTypeEnd? bytes pos = some ((readObjectType (.into bytes pos)).map Cursor.pos) := by
  have body : (Cursor.into bytes pos).rest.drop 1 = bytes.drop (pos + 1) := by simp
  unfold objectTypeEnd?
  rw [extract?_to_end within]
  by_cases ends : byte ';' ∈ bytes.drop (pos + 1)
  · obtain ⟨name, after, cut, unclosed⟩ := List.eq_append_cons_of_mem ends
    rw [readObjectType_of_name (body.trans cut) unclosed]
    have size := congrArg List.length cut
    rw [List.length_drop, List.length_append, List.length_cons] at size
    have first : extract? bytes (pos + 1) (pos + 1 + name.length) = some name := by
      rw [extract?_eq (by omega) (by omega), List.extract_eq_take_drop, cut,
        Nat.add_sub_cancel_left, List.take_left]
    simp only [Option.bind_eq_bind, Option.bind_some, cut, idxOf?_of_first unclosed, first]
    cases nameFault? name with
    | none =>
      rw [Option.elim_none, Cursor.skip_into]
      have stop : pos + 1 + name.length + 1 = pos + (name.length + 2) := by omega
      rw [stop]
      rfl
    | some fault => rfl
  · rw [readObjectType_of_unterminated (body ▸ ends)]
    simp only [Option.bind_eq_bind, Option.bind_some, List.idxOf?_eq_none_iff.2 ends]
    rfl

/-- Past the end there is nothing to slice. -/
example : objectTypeEnd? [] 0 = none := by decide

theorem elementTypeEnd?_eq (bytes : List UInt8) (pos : Nat) :
    elementTypeEnd? bytes pos = some ((readElementType (.into bytes pos)).map Cursor.pos) := by
  unfold elementTypeEnd? readElementType
  cases here : bytes[pos]? with
  | none =>
    rw [Cursor.rest_into, drop_of_none here]
    rfl
  | some tag =>
    obtain ⟨within, -⟩ := List.getElem?_eq_some_iff.1 here
    rw [Cursor.rest_into, drop_of_some here]
    dsimp only
    split
    · simp [Except.map]
    · split
      · exact objectTypeEnd?_eq within
      · split <;> rfl

theorem dimensionsEnd_eq (bytes : List UInt8) (pos : Nat) :
    dimensionsEnd bytes pos = pos + dimensions (bytes.drop pos) := by
  fun_induction dimensionsEnd bytes pos with
  | case1 pos here ih =>
    rw [ih, drop_of_some here, dimensions, dimensions, List.takeWhile_cons_of_pos (by simp),
      List.length_cons]
    omega
  | case2 pos other =>
    have none : dimensions (bytes.drop pos) = 0 := by
      cases here : bytes[pos]? with
      | none =>
        rw [drop_of_none here]
        rfl
      | some b =>
        have notBracket : b ≠ byte '[' := by
          rintro rfl
          exact other here
        rw [drop_of_some here, dimensions, List.takeWhile_cons_of_neg (by simpa using notBracket)]
        rfl
    rw [none, Nat.add_zero]

/-- Every slice is in range, and the place reached is that of the cursor. -/
theorem fieldTypeEnd?_eq (bytes : List UInt8) (start : Nat) :
    fieldTypeEnd? bytes start = some ((readFieldType (.into bytes start)).map Cursor.pos) := by
  unfold fieldTypeEnd? readFieldType
  rw [dimensionsEnd_eq, Nat.add_sub_cancel_left, Cursor.rest_into, Cursor.skip_into]
  split
  · rfl
  · exact elementTypeEnd?_eq bytes _

/-! ## What a field type is read from -/

theorem FieldType.length_pos {type : List UInt8} (ok : FieldType byte type) : 0 < type.length := by
  obtain ⟨tag, -, tail, rfl⟩ := ok.head_mem
  exact Nat.succ_pos _

theorem fieldTypeEnd?_eq_ok_iff :
    fieldTypeEnd? bytes start = some (.ok stop) ↔
      ∃ type, FieldType byte type ∧ type <+: bytes.drop start ∧ stop = start + type.length := by
  rw [fieldTypeEnd?_eq, Option.some_inj]
  constructor
  · intro read
    cases reached : readFieldType (.into bytes start) with
    | error e =>
      rw [reached] at read
      cases read
    | ok c =>
      rw [reached] at read
      cases read
      obtain ⟨type, ok, within, rfl⟩ := readFieldType_eq_ok_iff.1 reached
      exact ⟨type, ok, within, rfl⟩
  · rintro ⟨type, ok, within, rfl⟩
    rw [ok.read (c := .into bytes start) within]
    rfl

theorem fieldTypeEnd?_forward (read : fieldTypeEnd? bytes start = some (.ok stop)) :
    start < stop ∧ stop ≤ bytes.length := by
  obtain ⟨type, ok, within, rfl⟩ := fieldTypeEnd?_eq_ok_iff.1 read
  have some := ok.length_pos
  have size := within.length_le
  rw [List.length_drop] at size
  omega

/-- The bytes from one place up to another are the same. -/
def Agree (start stop : Nat) (bytes other : List UInt8) : Prop :=
  ∀ i, start ≤ i → i < stop → other[i]? = bytes[i]?

theorem fieldTypeEnd?_of_agree (read : fieldTypeEnd? bytes start = some (.ok stop))
    (agree : Agree start stop bytes other) : fieldTypeEnd? other start = some (.ok stop) := by
  obtain ⟨type, ok, within, rfl⟩ := fieldTypeEnd?_eq_ok_iff.1 read
  refine fieldTypeEnd?_eq_ok_iff.2 ⟨type, ok, ?_, rfl⟩
  rw [List.prefix_iff_getElem?] at within ⊢
  intro i hi
  rw [List.getElem?_drop, agree (start + i) (by omega) (by omega), ← List.getElem?_drop]
  exact within i hi

/-- The same fault, as it lies `n` bytes further on. -/
def Malformed.shift (e : Malformed) (n : Nat) : Malformed := { e with position := e.position + n }

/-- The same outcome, as it stands `n` bytes further on. -/
def shiftEnd (n : Nat) : Except Malformed Nat → Except Malformed Nat
  | .ok stop => .ok (stop + n)
  | .error e => .error (e.shift n)

theorem readObjectType_shift (c : Cursor) (n : Nat) :
    (readObjectType (c.shift n)).map Cursor.pos =
      shiftEnd n ((readObjectType c).map Cursor.pos) := by
  by_cases ends : byte ';' ∈ c.rest.drop 1
  · obtain ⟨name, after, cut, unclosed⟩ := List.eq_append_cons_of_mem ends
    rw [readObjectType_of_name cut unclosed, readObjectType_of_name (c := c.shift n) cut unclosed]
    cases nameFault? name with
    | none => exact congrArg Except.ok (Nat.add_right_comm _ _ _)
    | some fault =>
      obtain ⟨i, fault⟩ := fault
      have place : c.pos + n + 1 + i = c.pos + 1 + i + n := by omega
      simp [Except.map, shiftEnd, Malformed.shift, place]
  · rw [readObjectType_of_unterminated ends, readObjectType_of_unterminated (c := c.shift n) ends]
    rfl

theorem readElementType_shift (c : Cursor) (n : Nat) :
    (readElementType (c.shift n)).map Cursor.pos =
      shiftEnd n ((readElementType c).map Cursor.pos) := by
  unfold readElementType
  rw [Cursor.rest_shift]
  split
  · rfl
  · split
    · exact congrArg Except.ok (Nat.add_right_comm _ _ _)
    · split
      · exact readObjectType_shift c n
      · split <;> rfl

theorem readFieldType_shift (c : Cursor) (n : Nat) :
    (readFieldType (c.shift n)).map Cursor.pos =
      shiftEnd n ((readFieldType c).map Cursor.pos) := by
  unfold readFieldType
  rw [Cursor.rest_shift]
  split
  · rfl
  · have skipped : (c.shift n).skip (dimensions c.rest) = (c.skip (dimensions c.rest)).shift n := by
      simp [Cursor.shift, Cursor.skip, Nat.add_right_comm]
    rw [skipped, readElementType_shift]

theorem fieldTypeEnd?_shift (bytes : List UInt8) (start : Nat) :
    fieldTypeEnd? bytes start = (fieldTypeEnd? (bytes.drop start) 0).map (shiftEnd start) := by
  have moved : Cursor.into bytes start = (Cursor.into (bytes.drop start) 0).shift start := by
    simp [Cursor.into, Cursor.shift]
  rw [fieldTypeEnd?_eq, fieldTypeEnd?_eq, moved, readFieldType_shift, Option.map_some]

/-! ## The loop over parameters -/

theorem readFieldType_of_end (read : fieldTypeEnd? bytes start = some (.ok stop)) :
    readFieldType (.into bytes start) = .ok (.into bytes stop) := by
  obtain ⟨type, ok, within, rfl⟩ := fieldTypeEnd?_eq_ok_iff.1 read
  rw [ok.read within, Cursor.skip_into]

/-- Every round moves on by a byte at least, so the loop ends before the rounds do. -/
theorem parametersEnd?_eq {rounds : Nat} (enough : bytes.length - pos < rounds) :
    parametersEnd? bytes rounds pos = some ((readParameters (.into bytes pos)).map Cursor.pos) := by
  induction rounds generalizing pos with
  | zero => exact absurd enough (Nat.not_lt_zero _)
  | succ rounds ih =>
    unfold parametersEnd?
    cases here : bytes[pos]? with
    | none =>
      rw [readParameters, Cursor.rest_into, drop_of_none here]
      rfl
    | some b =>
      have rest : (Cursor.into bytes pos).rest = _ := drop_of_some here
      dsimp only
      split
      · next closed =>
        subst closed
        rw [readParameters_of_close rest, Cursor.skip_into]
        rfl
      · next unclosed =>
        cases reached : readFieldType (.into bytes pos) with
        | error e =>
          rw [fieldTypeEnd?_eq, reached, readParameters_of_failed rest unclosed reached]
          rfl
        | ok c =>
          have read : fieldTypeEnd? bytes pos = some (.ok c.pos) := by
            rw [fieldTypeEnd?_eq, reached]
            rfl
          have forward := fieldTypeEnd?_forward read
          rw [read, readParameters_of_read rest unclosed (readFieldType_of_end read)]
          exact ih (by omega)

/-! ## Whole descriptors -/

theorem expectEnd_into (within : pos ≤ bytes.length) (fault : Fault) :
    (Cursor.into bytes pos).expectEnd fault = expectEndAt bytes pos fault := by
  unfold expectEndAt
  split
  · next ended =>
    subst ended
    exact expectEnd_eq_ok_iff.2 List.drop_length
  · next other =>
    have unread : (Cursor.into bytes pos).rest ≠ [] := by
      rw [Cursor.rest_into, Ne, List.drop_eq_nil_iff]
      omega
    rw [expectEnd_of_ne_nil unread, Cursor.pos_into]

theorem returnTypeEnd?_eq (bytes : List UInt8) (pos : Nat) :
    returnTypeEnd? bytes pos = some ((readReturnType (.into bytes pos)).map Cursor.pos) := by
  unfold returnTypeEnd? readReturnType
  cases here : bytes[pos]? with
  | none =>
    rw [Cursor.rest_into, drop_of_none here]
    rfl
  | some b =>
    rw [Cursor.rest_into, drop_of_some here]
    dsimp only
    split
    · rw [Cursor.skip_into]
      rfl
    · exact fieldTypeEnd?_eq bytes pos

theorem Cursor.skip_within {front : List UInt8} (within : pos ≤ bytes.length)
    (read : front <+: (Cursor.into bytes pos).rest) : pos + front.length ≤ bytes.length := by
  have size := read.length_le
  rw [Cursor.rest_into, List.length_drop] at size
  omega

theorem fieldVerdict?_eq (bytes : List UInt8) :
    fieldVerdict? bytes = some (checkFieldBytes bytes) := by
  have start : Cursor.start bytes = .into bytes 0 := rfl
  unfold fieldVerdict? checkFieldBytes
  rw [fieldTypeEnd?_eq, start]
  cases read : readFieldType (.into bytes 0) with
  | error e => rfl
  | ok c =>
    obtain ⟨type, -, within, rfl⟩ := readFieldType_eq_ok_iff.1 read
    have inside := Cursor.skip_within (Nat.zero_le _) within
    rw [Cursor.skip_into]
    dsimp only
    rw [expectEnd_into inside]
    rfl

theorem methodVerdict?_eq (bytes : List UInt8) :
    methodVerdict? bytes = some (checkMethodBytes bytes) := by
  unfold methodVerdict? checkMethodBytes
  split
  · rfl
  · next opened =>
    obtain ⟨tail, rfl⟩ := List.head?_eq_some_iff.1 (Decidable.not_not.1 opened)
    have start : (Cursor.start (byte '(' :: tail)).skip 1 = .into (byte '(' :: tail) 1 := rfl
    rw [parametersEnd?_eq (by simp), start]
    cases readTypes : readParameters (.into (byte '(' :: tail) 1) with
    | error e => rfl
    | ok c =>
      obtain ⟨types, -, within, rfl⟩ := types_of_readParameters readTypes
      have inside := Cursor.skip_within (Nat.succ_le_succ (Nat.zero_le _)) within
      rw [List.length_append, List.length_singleton] at inside
      rw [Cursor.skip_into]
      generalize 1 + (types.flatten.length + 1) = pos at inside ⊢
      dsimp only [Except.map, Option.bind_eq_bind, Option.bind_some, Cursor.pos_into]
      rw [returnTypeEnd?_eq]
      cases readResult : readReturnType (.into (byte '(' :: tail) pos) with
      | error e => rfl
      | ok c =>
        obtain ⟨result, -, within, rfl⟩ := readReturnType_eq_ok_iff.1 readResult
        rw [Cursor.skip_into]
        dsimp only
        rw [expectEnd_into (Cursor.skip_within inside within)]
        rfl

/-! ## Faults and texts -/

/-- The text falls into two at so many bytes from its start. -/
structure CutsAt (text : String) (position : Nat) : Prop where
  within : position ≤ text.utf8ByteSize
  boundary : (String.Pos.Raw.mk position).IsValid text
  parts : ∃ front rest, front ++ rest = text ∧ front.utf8ByteSize = position

theorem ReadsFieldTypes.cutsAt {check : String → Except Malformed Unit} {lead : String → Prop}
    (reader : ReadsFieldTypes check lead) {text : String} {e : Malformed}
    (refused : check text = .error e) : CutsAt text e.position := by
  obtain ⟨front, rest, rfl, size, -⟩ := reader.stuck refused
  have boundary : (String.Pos.Raw.mk e.position).IsValid (front ++ rest) :=
    String.Pos.Raw.isValid_iff_exists_append.2 ⟨front, rest, rfl, String.Pos.Raw.ext size.symm⟩
  exact ⟨boundary.le_utf8ByteSize, boundary, front, rest, rfl, size⟩

/-- A text can be cut where its fault is placed, and no slice that is taken on the way there, or to
the end of a text without fault, is out of range. -/
theorem faults_cut (text : String) :
    (∀ e, checkField text = .error e ∨ checkMethod text = .error e → CutsAt text e.position) ∧
      fieldVerdict? (utf8 text) = some (checkField text) ∧
      methodVerdict? (utf8 text) = some (checkMethod text) := by
  refine ⟨?_, fieldVerdict?_eq _, methodVerdict?_eq _⟩
  rintro e (refused | refused)
  · exact checkField_readsFieldTypes.cutsAt refused
  · exact checkMethod_readsFieldTypes.cutsAt refused

theorem faults_cut_accented :
    checkField "[Lé.b;" = .error ⟨4, .illegalCharacter⟩ ∧ CutsAt "[Lé.b;" 4 ∧
      checkMethod "(I)é" = .error ⟨3, .unknownTag⟩ ∧ CutsAt "(I)é" 3 := by
  have illegal : checkField "[Lé.b;" = .error ⟨4, .illegalCharacter⟩ := by decide
  have unknown : checkMethod "(I)é" = .error ⟨3, .unknownTag⟩ := by decide +kernel
  exact ⟨illegal, (faults_cut _).1 _ (.inl illegal), unknown, (faults_cut _).1 _ (.inr unknown)⟩

/-- Where a field type ends is told by its own bytes, counted from its start. The end lies further on
than the start, so that a loop over field types ends. -/
theorem fieldType_end_local (bytes : List UInt8) (start : Nat) :
    fieldTypeEnd? bytes start = some ((readFieldType (.into bytes start)).map Cursor.pos) ∧
      (∀ stop, fieldTypeEnd? bytes start = some (.ok stop) →
        start < stop ∧ stop ≤ bytes.length ∧
          ∀ other, Agree start stop bytes other → fieldTypeEnd? other start = some (.ok stop)) ∧
      fieldTypeEnd? bytes start = (fieldTypeEnd? (bytes.drop start) 0).map (shiftEnd start) ∧
      ∀ rounds, bytes.length - start < rounds → parametersEnd? bytes rounds start =
        some ((readParameters (.into bytes start)).map Cursor.pos) := by
  refine ⟨fieldTypeEnd?_eq bytes start, fun stop read => ?_, fieldTypeEnd?_shift bytes start,
    fun rounds => parametersEnd?_eq⟩
  obtain ⟨forward, inside⟩ := fieldTypeEnd?_forward read
  exact ⟨forward, inside, fun other => fieldTypeEnd?_of_agree read⟩

theorem fieldType_end_local_object :
    fieldTypeEnd? (utf8 "(I[LA;)V") 2 = some (.ok 6) ∧
      fieldTypeEnd? (utf8 "é[LA;") 2 = some (.ok 6) ∧
      parametersEnd? (utf8 "(I[LA;)V") 8 1 = some (.ok 7) := by
  have read : fieldTypeEnd? (utf8 "(I[LA;)V") 2 = some (.ok 6) := by
    rw [fieldTypeEnd?_eq]
    decide
  have agree : Agree 2 6 (utf8 "(I[LA;)V") (utf8 "é[LA;") := by
    unfold Agree
    intro i lower upper
    obtain rfl | rfl | rfl | rfl : i = 2 ∨ i = 3 ∨ i = 4 ∨ i = 5 := by omega
    all_goals decide
  obtain ⟨-, -, others⟩ := (fieldType_end_local _ _).2.1 _ read
  have loop := (fieldType_end_local (utf8 "(I[LA;)V") 1).2.2.2 8 (by decide)
  refine ⟨read, others _ agree, loop.trans ?_⟩
  decide +kernel

end TransformRegistry.Descriptor
