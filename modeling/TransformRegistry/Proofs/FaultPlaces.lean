import TransformRegistry.Proofs.Begun

/-!
# Where the fault of a descriptor lies

A checker that refuses a text names a place in it. What stands before that place can still become a
descriptor, but for one case: a class name is searched for forbidden characters before its segments
are looked at, so that a character is named although a segment before it is empty.
-/

namespace TransformRegistry.Descriptor

open Text

variable {check : String → Except Malformed Unit} {lead : String → Prop}
  {text front before : String} {e : Malformed}

/-! ## Texts that can be completed -/

def Completable (check : String → Except Malformed Unit) (front : String) : Prop :=
  ∃ more, check (front ++ more) = .ok ()

/-- The text ends in a class name with a gap, which starts where a field type is expected. -/
def EndsInGap (lead : String → Prop) (text : String) : Prop :=
  ∃ before k name, lead before ∧
    text = before ++ String.ofList (List.replicate k '[' ++ 'L' :: name) ∧ ';' ∉ name ∧ HasGap name

/-- A checker that reads a field type after each `lead`, and gives up nowhere else. -/
structure ReadsFieldTypes (check : String → Except Malformed Unit) (lead : String → Prop) :
    Prop where
  completes {before : String} : lead before → ∃ close, ∀ type, checkField type = .ok () →
    check (before ++ type ++ close) = .ok ()
  reads {before : String} {k : Nat} {tail : List Char} : lead before →
    check (before ++ String.ofList (List.replicate k '[' ++ 'L' :: tail)) = .ok () →
    ∃ type after, FieldType id type ∧ type ++ after = List.replicate k '[' ++ 'L' :: tail
  stuck {text : String} {e : Malformed} : check text = .error e →
    ∃ front rest, front ++ rest = text ∧ front.utf8ByteSize = e.position ∧
      (Completable check front ∨
        ∃ before begun, lead before ∧ front = before ++ String.ofList begun ∧ Begun e.fault begun)

namespace ReadsFieldTypes

theorem not_completable (reader : ReadsFieldTypes check lead) (gap : EndsInGap lead front) :
    ¬Completable check front := by
  obtain ⟨before, k, name, start, rfl, unclosed, gap⟩ := gap
  rintro ⟨more, accepted⟩
  have whole : before ++ String.ofList (List.replicate k '[' ++ 'L' :: name) ++ more =
      before ++ String.ofList (List.replicate k '[' ++ 'L' :: (name ++ more.toList)) := by
    rw [String.append_assoc, ← String.toList_inj]
    simp
  rw [whole] at accepted
  obtain ⟨type, after, ok, start⟩ := reader.reads start accepted
  exact ok.not_hasGap start unclosed gap

theorem completable_of_fieldType (reader : ReadsFieldTypes check lead) (start : lead before)
    {begun more : List Char} (ok : FieldType id (begun ++ more)) :
    Completable check (before ++ String.ofList begun) := by
  obtain ⟨close, completes⟩ := reader.completes start
  have type : checkField (String.ofList (begun ++ more)) = .ok () := by
    rw [checkField_eq_ok_iff, IsFieldType, String.toList_ofList]
    exact ok
  refine ⟨String.ofList more ++ close, ?_⟩
  have accepted := completes _ type
  have whole : before ++ String.ofList (begun ++ more) ++ close =
      before ++ String.ofList begun ++ (String.ofList more ++ close) := by
    rw [String.ofList_append, ← String.append_assoc, ← String.append_assoc]
  rwa [whole] at accepted

/-- The checker reads on to the fault, unless a gap was there before it. -/
theorem of_begun (reader : ReadsFieldTypes check lead) (start : lead before) {fault : Fault}
    {begun : List Char} (ok : Begun fault begun) :
    Completable check (before ++ String.ofList begun) ∨
      EndsInGap lead (before ++ String.ofList begun) ∧ fault = .illegalCharacter := by
  cases ok with
  | dimensions bounded =>
    have base : ElementType id ['I'] := .base (by decide)
    have type := FieldType.array bounded base
    exact .inl (reader.completable_of_fieldType start type)
  | @named k name bounded plain illegal =>
    by_cases gap : HasGap name
    · have some : name ≠ [] := by
        rintro rfl
        exact absurd gap (by decide)
      have unclosed : ';' ∉ name := fun inside => absurd (plain ';' inside (by decide)) (by decide)
      exact .inr ⟨⟨before, k, name, start, rfl, unclosed, gap⟩, illegal some⟩
    · exact .inl (reader.completable_of_fieldType start (.of_begun bounded plain gap))

end ReadsFieldTypes

/-- What stands before the position can be completed, or it ends in a class name with a gap and
the fault is a character further on in that name. -/
def PointsAtFault (check : String → Except Malformed Unit) (lead : String → Prop) (text : String)
    (e : Malformed) : Prop :=
  ∃ front rest, front ++ rest = text ∧ front.utf8ByteSize = e.position ∧
    (Completable check front ↔ ¬EndsInGap lead front) ∧
      (EndsInGap lead front → e.fault = .illegalCharacter)

theorem ReadsFieldTypes.pointsAtFault (reader : ReadsFieldTypes check lead)
    (refused : check text = .error e) : PointsAtFault check lead text e := by
  obtain ⟨front, rest, whole, size, stuck⟩ := reader.stuck refused
  have reached : Completable check front ∨ EndsInGap lead front ∧ e.fault = .illegalCharacter := by
    rcases stuck with completable | ⟨before, begun, start, rfl, ok⟩
    · exact .inl completable
    · exact reader.of_begun start ok
  refine ⟨front, rest, whole, size, ?_⟩
  rcases reached with completable | ⟨gap, illegal⟩
  · have noGap : ¬EndsInGap lead front := fun gap => reader.not_completable gap completable
    exact ⟨iff_of_true completable noGap, fun gap => absurd gap noGap⟩
  · exact ⟨iff_of_false (reader.not_completable gap) fun noGap => noGap gap, fun _ => illegal⟩

theorem StuckAfter.texts {c : Cursor} {cs front : List Char} (stuck : StuckAfter c cs e front)
    (whole : before ++ String.ofList cs = text) (start : before.utf8ByteSize = c.pos) :
    ∃ rest, before ++ String.ofList front ++ rest = text ∧
      (before ++ String.ofList front).utf8ByteSize = e.position := by
  obtain ⟨⟨rest, rfl⟩, position⟩ := stuck
  refine ⟨String.ofList rest, ?_, ?_⟩
  · rw [String.append_assoc, ← String.ofList_append, whole]
  · rw [position, String.utf8ByteSize_append, start, ← length_utf8, utf8_ofList]

/-! ## Field types -/

/-- A field descriptor is a field type from the start. -/
def FieldLead (before : String) : Prop := before = ""

theorem checkField_readsFieldTypes : ReadsFieldTypes checkField FieldLead where
  completes := by
    rintro before rfl
    refine ⟨"", fun type ok => ?_⟩
    rwa [String.append_empty, String.empty_append]
  reads := by
    rintro before k tail rfl accepted
    rw [String.empty_append, checkField_eq_ok_iff, IsFieldType, String.toList_ofList] at accepted
    exact ⟨_, [], accepted, List.append_nil _⟩
  stuck := by
    intro text e refused
    have whole : "" ++ String.ofList text.toList = text := by
      rw [String.empty_append, String.ofList_toList]
    unfold checkField checkFieldBytes at refused
    split at refused
    · next failed =>
      cases refused
      have spelled : (Cursor.start (utf8 text)).rest = encode text.toList := rfl
      obtain ⟨begun, stuck, ok⟩ := readFieldType_stuck spelled failed
      obtain ⟨rest, cut, size⟩ := stuck.texts whole rfl
      exact ⟨_, rest, cut, size, .inr ⟨"", begun, rfl, rfl, ok⟩⟩
    · next read =>
      obtain ⟨bytes, ok, ⟨after, start⟩, rfl⟩ := readFieldType_eq_ok_iff.1 read
      obtain ⟨type, rest, same, rfl, rfl⟩ := text_of_append_of_ends_ascii ok.ends_ascii start
      have stuck : StuckAfter (.start (utf8 text)) text.toList e type :=
        ⟨⟨rest, same.symm⟩, position_of_expectEnd refused⟩
      obtain ⟨rest, cut, size⟩ := stuck.texts whole rfl
      refine ⟨_, rest, cut, size, .inl ⟨"", ?_⟩⟩
      rw [String.append_empty, String.empty_append, checkField, utf8_ofList]
      exact checkFieldBytes_eq_ok_iff.2 ok

/-! ## Method types -/

/-- A method descriptor goes on with a field type after any parameters, and after all of them. -/
def MethodLead (before : String) : Prop :=
  ∃ parameters : List String, (∀ p ∈ parameters, checkField p = .ok ()) ∧
    (before = "(" ++ String.join parameters ∨ before = "(" ++ String.join parameters ++ ")")

theorem next_of_flatten {types parameters : List (List UInt8)} {result rest : List UInt8}
    (ok : ∀ t ∈ types, FieldType byte t) (okParameters : ∀ t ∈ parameters, FieldType byte t)
    (same : types.flatten ++ byte ')' :: result = parameters.flatten ++ rest) :
    rest = byte ')' :: result ∨ ∃ t, FieldType byte t ∧ t <+: rest := by
  induction parameters generalizing types with
  | nil =>
    cases types with
    | nil => exact .inl same.symm
    | cons t types =>
      rw [List.flatten_cons, List.append_assoc] at same
      exact .inr ⟨t, ok t List.mem_cons_self, ⟨_, same⟩⟩
  | cons p parameters ih =>
    rw [List.forall_mem_cons] at okParameters
    rw [List.flatten_cons, List.append_assoc] at same
    cases types with
    | nil => exact absurd ⟨_, same.symm⟩ (okParameters.1.head_ne (.inl rfl))
    | cons t types =>
      rw [List.forall_mem_cons] at ok
      rw [List.flatten_cons, List.append_assoc] at same
      obtain rfl := ok.1.unique okParameters.1 (List.prefix_append _ _) ⟨_, same.symm⟩
      exact ih ok.2 okParameters.2 (List.append_cancel_left same)

theorem encode_begun_ne (k : Nat) (tail : List Char) {c : Char} (hc : c ∈ [')', 'V'])
    (l : List UInt8) : encode (List.replicate k '[' ++ 'L' :: tail) ≠ byte c :: l := by
  have ascii : [')', 'V'].all (IsAscii ·) = true := by decide
  intro same
  obtain ⟨r, same, -⟩ := encode_eq_cons (of_decide_eq_true (List.all_eq_true.1 ascii c hc)) same
  cases k with
  | zero =>
    obtain ⟨rfl, -⟩ := List.cons.inj same
    exact absurd hc (by decide)
  | succ k =>
    obtain ⟨rfl, -⟩ := List.cons.inj same
    exact absurd hc (by decide)

theorem utf8_opened (parameters : List String) :
    utf8 ("(" ++ String.join parameters) = byte '(' :: (parameters.map utf8).flatten := by
  rw [utf8_append, utf8_join]
  rfl

theorem accepted_of_isFieldType {types : List (List Char)} (ok : ∀ t ∈ types, FieldType id t) :
    ∀ p ∈ types.map String.ofList, checkField p = .ok () := by
  intro p hp
  obtain ⟨t, ht, rfl⟩ := List.mem_map.1 hp
  rw [checkField_eq_ok_iff, IsFieldType, String.toList_ofList]
  exact ok t ht

theorem join_map_ofList (types : List (List Char)) :
    String.join (types.map String.ofList) = String.ofList types.flatten := by
  induction types with
  | nil => rfl
  | cons t rest ih =>
    rw [List.map_cons, String.join_cons, ih, List.flatten_cons, String.ofList_append]

theorem opened_of_readParameters {c : Cursor} {inner : List Char}
    (opening : utf8 text = byte '(' :: encode inner)
    (read : readParameters ((Cursor.start (utf8 text)).skip 1) = .ok c) :
    ∃ (parameters : List String) (last : List Char), (∀ p ∈ parameters, checkField p = .ok ()) ∧
      "(" ++ String.join parameters ++ ")" ++ String.ofList last = text ∧
      ("(" ++ String.join parameters ++ ")").utf8ByteSize = c.pos ∧ c.rest = encode last := by
  obtain ⟨types, ok, ⟨after, within⟩, rfl⟩ := types_of_readParameters read
  have left := rest_skip_of_append within
  have spelled : ((Cursor.start (utf8 text)).skip 1).rest = encode inner := by
    rw [Cursor.rest_skip, Cursor.start, opening]
    rfl
  rw [List.append_assoc, spelled] at within
  obtain ⟨parameters, closed, rfl, more⟩ := texts_of_flatten ok within.symm
  obtain ⟨last, rfl, rfl⟩ := encode_eq_cons (a := ')') (by decide) more.symm
  refine ⟨parameters, last, accepted_of_fieldTypes ok, ?_, ?_, ?_⟩
  · have parts := MethodParts.utf8_text ⟨parameters, String.ofList last⟩
    rw [utf8_ofList, methodBytes] at parts
    rw [← utf8_inj, opening, ← within]
    exact parts
  · rw [← length_utf8, utf8_append, utf8_opened, List.length_append, List.length_cons]
    exact (Nat.add_right_comm _ _ _).trans (Nat.add_comm _ _)
  · rwa [List.length_append, List.length_singleton] at left

theorem checkMethod_completes (lead : MethodLead before) :
    ∃ close, ∀ type, checkField type = .ok () → checkMethod (before ++ type ++ close) = .ok () := by
  obtain ⟨parameters, ok, rfl | rfl⟩ := lead
  · refine ⟨")V", fun type okType => ?_⟩
    have parts : MethodParts.Accepted ⟨parameters ++ [type], "V"⟩ := by
      refine ⟨fun p hp => ?_, .inl rfl⟩
      rcases List.mem_append.1 hp with old | new
      · exact ok p old
      · rwa [List.mem_singleton.1 new]
    refine checkMethod_eq_ok_iff.2 ⟨_, parts, ?_⟩
    rw [← utf8_inj, MethodParts.utf8_text, methodBytes, List.map_append, List.flatten_append]
    rw [utf8_append, utf8_append, utf8_opened, List.append_assoc]
    simp only [List.map_singleton, List.flatten_singleton, List.cons_append, List.append_assoc]
    rfl
  · refine ⟨"", fun type okType => ?_⟩
    refine checkMethod_eq_ok_iff.2 ⟨⟨parameters, type⟩, ⟨ok, .inr okType⟩, ?_⟩
    rw [String.append_empty]
    rfl

theorem checkMethod_reads {k : Nat} {tail : List Char} (lead : MethodLead before)
    (accepted : checkMethod (before ++ String.ofList (List.replicate k '[' ++ 'L' :: tail)) =
      .ok ()) :
    ∃ type after, FieldType id type ∧ type ++ after = List.replicate k '[' ++ 'L' :: tail := by
  obtain ⟨parameters, ok, lead⟩ := lead
  obtain ⟨m, parts, same⟩ := checkMethod_eq_ok_iff.1 accepted
  have okTypes := fieldTypes_of_accepted ok
  replace same := congrArg utf8 same
  rw [MethodParts.utf8_text] at same
  obtain ⟨type, okType, after, start⟩ : ∃ t, FieldType byte t ∧
      t <+: encode (List.replicate k '[' ++ 'L' :: tail) := by
    rcases lead with rfl | rfl
    · rw [utf8_append, utf8_opened, utf8_ofList] at same
      rcases next_of_flatten parts.fieldTypes okTypes (List.cons.inj same).2 with ended | next
      · exact absurd ended (encode_begun_ne k tail (by decide) _)
      · exact next
    · have split := MethodParts.utf8_text
        ⟨parameters, String.ofList (List.replicate k '[' ++ 'L' :: tail)⟩
      obtain ⟨-, result⟩ := methodBytes_inj parts.fieldTypes okTypes (same.trans split)
      rw [utf8_ofList] at result
      rcases parts.resultType with void | okResult
      · exact absurd (result.symm.trans void) (encode_begun_ne k tail (by decide) _)
      · exact ⟨_, okResult, result ▸ List.prefix_refl _⟩
  obtain ⟨type, after, whole, rfl, -⟩ := text_of_append_of_ends_ascii okType.ends_ascii start
  exact ⟨type, after, fieldType_encode_iff.1 okType, whole.symm⟩

theorem checkMethod_readsFieldTypes : ReadsFieldTypes checkMethod MethodLead where
  completes := checkMethod_completes
  reads := checkMethod_reads
  stuck := by
    intro text e refused
    unfold checkMethod checkMethodBytes at refused
    split at refused
    · cases refused
      refine ⟨"", text, String.empty_append, rfl, .inl ⟨"()V", ?_⟩⟩
      exact checkMethod_eq_ok_iff.2 ⟨⟨[], "V"⟩, ⟨fun _ hp => (nomatch hp), .inl rfl⟩, by decide⟩
    · next opened =>
      obtain ⟨bytes, opening⟩ := List.head?_eq_some_iff.1 (Decidable.not_not.1 opened)
      obtain ⟨inner, whole, rfl⟩ := encode_eq_cons (a := '(') (by decide) opening
      split at refused
      · next failed =>
        cases refused
        have spelled : ((Cursor.start (utf8 text)).skip 1).rest = encode inner := by
          rw [Cursor.rest_skip, Cursor.start, opening]
          rfl
        have whole : "(" ++ String.ofList inner = text := by
          rw [← String.ofList_toList (s := text), whole, String.ofList_cons]
          rfl
        obtain ⟨types, begun, ok, stuck, okBegun⟩ := readParameters_stuck spelled failed
        obtain ⟨rest, cut, size⟩ := stuck.texts whole rfl
        rw [String.ofList_append, ← String.append_assoc, ← join_map_ofList] at cut size
        have lead : MethodLead ("(" ++ String.join (types.map String.ofList)) :=
          ⟨_, accepted_of_isFieldType ok, .inl rfl⟩
        exact ⟨_, rest, cut, size, .inr ⟨_, begun, lead, rfl, okBegun⟩⟩
      · next readTypes =>
        obtain ⟨parameters, last, ok, whole, start, left⟩ :=
          opened_of_readParameters opening readTypes
        split at refused
        · next failed =>
          cases refused
          obtain ⟨begun, stuck, okBegun⟩ := readReturnType_stuck left failed
          obtain ⟨rest, cut, size⟩ := stuck.texts whole start
          exact ⟨_, rest, cut, size, .inr ⟨_, begun, ⟨parameters, ok, .inr rfl⟩, rfl, okBegun⟩⟩
        · next readResult =>
          obtain ⟨bytes, okResult, ⟨after, starts⟩, rfl⟩ := readReturnType_eq_ok_iff.1 readResult
          obtain ⟨result, rest, rfl, rfl, -⟩ :=
            text_of_append_of_ends_ascii okResult.ends_ascii (starts.trans left)
          have stuck : StuckAfter _ (result ++ rest) e result :=
            ⟨List.prefix_append _ _, position_of_expectEnd refused⟩
          obtain ⟨rest, cut, size⟩ := stuck.texts whole start
          rw [← utf8_ofList] at okResult
          refine ⟨_, rest, cut, size, .inl ⟨"", ?_⟩⟩
          rw [String.append_empty]
          exact checkMethod_eq_ok_iff.2
            ⟨⟨parameters, String.ofList result⟩, ⟨ok, okResult.accepted⟩, rfl⟩

/-! ## Both kinds -/

/-- What stands before the fault that is named can be completed, unless it ends in a gap. Then the
fault is a character further on in that name. -/
theorem faults_located (text : String) (e : Malformed) :
    (checkField text = .error e → PointsAtFault checkField FieldLead text e) ∧
      (checkMethod text = .error e → PointsAtFault checkMethod MethodLead text e) :=
  ⟨checkField_readsFieldTypes.pointsAtFault, checkMethod_readsFieldTypes.pointsAtFault⟩

theorem faults_located_object :
    checkField "[Lé/B" = .error ⟨1, .unterminatedObjectType⟩ ∧
      checkMethod "(IL/.;)V" = .error ⟨4, .illegalCharacter⟩ ∧
      PointsAtFault checkField FieldLead "[Lé/B" ⟨1, .unterminatedObjectType⟩ ∧
      PointsAtFault checkMethod MethodLead "(IL/.;)V" ⟨4, .illegalCharacter⟩ := by
  have unterminated : checkField "[Lé/B" = .error ⟨1, .unterminatedObjectType⟩ := by decide
  have illegal : checkMethod "(IL/.;)V" = .error ⟨4, .illegalCharacter⟩ := by decide +kernel
  exact ⟨unterminated, illegal, (faults_located _ _).1 unterminated,
    (faults_located _ _).2 illegal⟩

/-- No field type starts with a class name that has an empty segment, and yet the fault of this one
is placed after that segment. -/
theorem fault_after_gap :
    checkField "La//b.c;" = .error ⟨5, .illegalCharacter⟩ ∧
      ∀ front rest more, front ++ rest = "La//b.c;" → front.utf8ByteSize = 5 →
        checkField (front ++ more) ≠ .ok () := by
  refine ⟨by decide, fun front rest more whole size accepted => ?_⟩
  have start : utf8 front = utf8 "La//b" := by
    have first : utf8 front = (utf8 front ++ utf8 rest).take 5 := by
      rw [List.take_left' (by rw [length_utf8, size])]
    rw [first, ← utf8_append, whole]
    decide
  obtain rfl := utf8_inj.1 start
  have gap : EndsInGap FieldLead "La//b" :=
    ⟨"", 0, ['a', '/', '/', 'b'], rfl, by decide, by decide, by decide⟩
  exact checkField_readsFieldTypes.not_completable gap ⟨more, accepted⟩

end TransformRegistry.Descriptor
