import TransformRegistry.Proofs.MethodTypes

/-!
# Descriptors that are begun

What has been read when a reader of descriptors gives up: dimensions, and perhaps the start of a
class name. Any class name can be begun that way, and goes on to be one unless a segment of it was
closed while it was empty.
-/

namespace TransformRegistry.Descriptor

open Text

variable {c d : Cursor} {e : Malformed}

/-! ## Names that are begun -/

/-- A segment of the name is closed and empty, so no way of going on mends it. -/
def HasGap (name : List Char) : Prop := [] ∈ (segments (· == '/') name).dropLast

instance (name : List Char) : Decidable (HasGap name) := inferInstanceAs (Decidable (_ ∈ _))

/-- Slashes are all that breaks the name. -/
def Plain (name : List Char) : Prop := ∀ c ∈ name, c ∈ segmentBreaks → c = '/'

theorem ObjectName.not_hasGap {name rest : List Char} (ok : ObjectName id (name ++ rest)) :
    ¬HasGap name := by
  intro gap
  generalize spelled : name ++ rest = whole at ok
  obtain @⟨pieces, some, ok⟩ := ok
  have cut : segments (· == '/') (name ++ rest) = pieces := by
    rw [spelled, segments_eq_splitOn]
    exact List.splitOn_intercalate _ (fun s hs => (ok s hs).unbroken '/' (by decide)) some
  obtain ⟨closed, last, begun, append⟩ := segments_append (· == '/') name
  obtain ⟨s, more, later⟩ := List.exists_cons_of_ne_nil (segments_ne_nil (· == '/') rest)
  rw [HasGap, begun, List.dropLast_concat] at gap
  have empty : [] ∈ pieces := by
    rw [← cut, append later]
    exact List.mem_append_left _ gap
  exact (ok [] empty).nonempty rfl

theorem segments_encode (cs : List Char) :
    segments (· == byte '/') (encode cs) = (segments (· == '/') cs).map encode := by
  induction cs with
  | nil => rfl
  | cons c cs ih =>
    obtain ⟨s, rest, cut⟩ := List.exists_cons_of_ne_nil (segments_ne_nil (· == '/') cs)
    rw [cut, List.map_cons] at ih
    by_cases sep : c = '/'
    · subst sep
      rw [encode_cons, utf8EncodeChar_of_ascii (by decide), List.singleton_append, segments, ih]
      simp [segments, cut]
    · have other : ∀ b ∈ String.utf8EncodeChar c, (b == byte '/') = false := by
        intro b hb
        rw [beq_eq_false_iff_ne]
        rintro rfl
        exact sep ((mem_utf8EncodeChar_iff (by decide)).1 hb)
      rw [encode_cons, segments_append_of_unbroken other ih]
      simp [segments, sep, cut, consFirst]

theorem objectName_concat {name : List Char} (plain : Plain name) (whole : ¬HasGap name) :
    ObjectName id (name ++ ['a']) := by
  obtain ⟨closed, last, begun, append⟩ := segments_append (· == '/') name
  rw [HasGap, begun, List.dropLast_concat] at whole
  have cut : segments (· == '/') (name ++ ['a']) = closed ++ [last ++ ['a']] := append rfl
  have absent : ∀ c ∈ segmentBreaks, c ≠ '/' → byte c ∉ encode (name ++ ['a']) := by
    intro c hc other
    rw [mem_encode_iff (isAscii_of_mem_segmentBreaks c hc), List.mem_append, List.mem_singleton]
    rintro (here | rfl)
    · exact other (plain c here hc)
    · exact absurd hc (by decide)
  refine objectName_encode_iff.1 (objectName_iff.2 ⟨nameFault?_eq_none_iff.2 ⟨?_, ?_, ?_⟩, ?_⟩)
  · simp [encode_eq_nil_iff]
  · intro b hb
    refine Bool.eq_false_iff.2 fun reserved => ?_
    rcases isReservedInName_iff.1 reserved with rfl | rfl | rfl | rfl
    · exact absent '.' (by decide) (by decide) hb
    · exact absent '[' (by decide) (by decide) hb
    · exact absent '(' (by decide) (by decide) hb
    · exact absent ')' (by decide) (by decide) hb
  · rw [hasEmptySegment, segments_encode, cut, List.any_eq_false]
    intro bytes hbytes empty
    obtain ⟨s, hs, rfl⟩ := List.mem_map.1 hbytes
    obtain rfl := encode_eq_nil_iff.1 (List.isEmpty_iff.1 empty)
    rcases List.mem_append.1 hs with here | here
    · exact whole here
    · simp at here
  · exact absent ';' (by decide) (by decide)

/-! ## Field types that are begun -/

/-- What stands before a fault in a field type: dimensions, and perhaps a class name up to a
character that is not allowed in it. -/
inductive Begun (fault : Fault) : List Char → Prop
  | dimensions {k : Nat} : k ≤ 255 → Begun fault (List.replicate k '[')
  | named {k : Nat} {name : List Char} : k ≤ 255 → Plain name →
      (name ≠ [] → fault = .illegalCharacter) →
      Begun fault (List.replicate k '[' ++ 'L' :: name)

theorem replicate_append_cons_inj {α : Type} {a b c : α} {k n : Nat} {l m : List α} (hb : b ≠ a)
    (hc : c ≠ a) (same : List.replicate k a ++ b :: l = List.replicate n a ++ c :: m) :
    k = n ∧ b = c ∧ l = m := by
  induction k generalizing n with
  | zero =>
    cases n with
    | zero => exact ⟨rfl, List.cons.inj same⟩
    | succ n => exact absurd (List.cons.inj same).1 hb
  | succ k ih =>
    cases n with
    | zero => exact absurd (List.cons.inj same).1.symm hc
    | succ n =>
      obtain ⟨rfl, rest⟩ := ih (List.cons.inj same).2
      exact ⟨rfl, rest⟩

theorem FieldType.not_hasGap {type after name rest : List Char} {k : Nat} (ok : FieldType id type)
    (start : type ++ after = List.replicate k '[' ++ 'L' :: (name ++ rest))
    (unclosed : ';' ∉ name) : ¬HasGap name := by
  obtain @⟨n, element, -, ok⟩ := ok
  rw [List.append_assoc] at start
  cases ok with
  | @base tag ht =>
    have notDimension : tag ≠ '[' := by
      rintro rfl
      exact absurd ht (by decide)
    obtain ⟨-, same, -⟩ := replicate_append_cons_inj notDimension (by decide) start
    have same : tag = 'L' := same
    subst same
    exact absurd ht (by decide)
  | @object whole ok =>
    obtain ⟨-, -, same⟩ := replicate_append_cons_inj (b := 'L') (by decide) (by decide) start
    have same : whole ++ ';' :: after = name ++ rest := by simpa using same
    rcases List.append_eq_append_iff.1 same with ⟨more, rfl, later⟩ | ⟨more, rfl, -⟩
    · cases more with
      | nil =>
        rw [List.append_nil]
        rw [← List.append_nil whole] at ok
        exact ok.not_hasGap
      | cons c more =>
        obtain ⟨rfl, -⟩ := List.cons.inj later
        exact absurd (by simp) unclosed
    · exact ok.not_hasGap

theorem FieldType.of_begun {k : Nat} {name : List Char} (bounded : k ≤ 255)
    (plain : Plain name) (whole : ¬HasGap name) :
    FieldType id (List.replicate k '[' ++ 'L' :: name ++ ['a', ';']) := by
  have ok := FieldType.array bounded (.object (objectName_concat plain whole))
  simpa using ok

/-! ## Where a field type cannot be read on -/

theorem plain_of_unreserved {name : List Char}
    (unreserved : ∀ b ∈ encode name, isReservedInName b = false) (unclosed : ';' ∉ name) :
    Plain name := by
  intro c hc breaks
  have own := unreserved _ ((mem_encode_iff (isAscii_of_mem_segmentBreaks c breaks)).2 hc)
  simp only [segmentBreaks, List.mem_cons, List.not_mem_nil, or_false] at breaks
  rcases breaks with rfl | rfl | rfl | rfl | rfl | rfl
  · cases own
  · exact absurd hc unclosed
  · cases own
  · cases own
  · cases own
  · rfl

theorem plain_nil : Plain [] := fun _ hc => nomatch hc

/-- A fault that is not at the start of the name is a character that does not belong there. -/
theorem nameFault?_stuck {name : List Char} {i : Nat} {fault : Fault} (unclosed : ';' ∉ name)
    (faulty : nameFault? (encode name) = some (i, fault)) :
    ∃ front rest, name = front ++ rest ∧ i = (encode front).length ∧ Plain front ∧
      (front ≠ [] → fault = .illegalCharacter) := by
  unfold nameFault? at faulty
  split at faulty
  · cases faulty
    exact ⟨[], name, rfl, rfl, plain_nil, fun some => absurd rfl some⟩
  · split at faulty
    · next found =>
      cases faulty
      obtain ⟨bound, bad, earlier⟩ := List.findIdx?_eq_some_iff_getElem.1 found
      obtain ⟨a, ascii, here⟩ : ∃ a, IsAscii a ∧ (encode name)[i] = byte a := by
        rcases isReservedInName_iff.1 bad with here | here | here | here
        · exact ⟨'.', by decide, here⟩
        · exact ⟨'[', by decide, here⟩
        · exact ⟨'(', by decide, here⟩
        · exact ⟨')', by decide, here⟩
      have cut : encode name = (encode name).take i ++ byte a :: (encode name).drop (i + 1) := by
        rw [← here, List.getElem_cons_drop, List.take_append_drop]
      obtain ⟨front, rest, rfl, before, -⟩ := encode_eq_append_cons ascii cut
      have length : i = (encode front).length := by
        rw [← before, List.length_take, Nat.min_eq_left bound.le]
      refine ⟨front, a :: rest, rfl, length, plain_of_unreserved ?_ ?_, fun _ => rfl⟩
      · intro b hb
        obtain ⟨j, hj, rfl⟩ := List.getElem_of_mem hb
        have unreserved := earlier j (length ▸ hj)
        simpa [List.getElem_append_left hj] using unreserved
      · exact fun inside => unclosed (List.mem_append_left _ inside)
    · split at faulty
      · cases faulty
        exact ⟨[], name, rfl, rfl, plain_nil, fun some => absurd rfl some⟩
      · cases faulty

/-- The text that starts here falls into `front`, which ends at the fault, and what follows. -/
structure StuckAfter (c : Cursor) (cs : List Char) (e : Malformed) (front : List Char) : Prop where
  cut : front <+: cs
  position : e.position = c.pos + (encode front).length

theorem readObjectType_stuck {cs : List Char} (spelled : c.rest = encode ('L' :: cs))
    (failed : readObjectType c = .error e) :
    StuckAfter c ('L' :: cs) e [] ∨
      ∃ name, StuckAfter c ('L' :: cs) e ('L' :: name) ∧ Plain name ∧
        (name ≠ [] → e.fault = .illegalCharacter) := by
  have body : c.rest.drop 1 = encode cs := by
    rw [spelled, encode_cons_of_ascii (by decide)]
    rfl
  by_cases ends : ';' ∈ cs
  · obtain ⟨name, after, rfl, unclosed⟩ := List.eq_append_cons_of_mem ends
    rw [encode_append, encode_cons_of_ascii (by decide)] at body
    rw [readObjectType_of_name body (mt (mem_encode_iff (by decide)).1 unclosed)] at failed
    cases faulty : nameFault? (encode name) with
    | none =>
      rw [faulty] at failed
      cases failed
    | some at_ =>
      obtain ⟨i, fault⟩ := at_
      rw [faulty] at failed
      cases failed
      obtain ⟨front, rest, rfl, rfl, plain, illegal⟩ := nameFault?_stuck unclosed faulty
      refine .inr ⟨front, ⟨?_, ?_⟩, plain, illegal⟩
      · simp
      · rw [encode_cons_of_ascii (by decide), List.length_cons]
        exact Nat.add_right_comm _ _ _
  · rw [readObjectType_of_unterminated (body ▸ mt (mem_encode_iff (by decide)).1 ends)] at failed
    cases failed
    exact .inl ⟨List.nil_prefix, rfl⟩

theorem readElementType_stuck {cs : List Char} (spelled : c.rest = encode cs)
    (failed : readElementType c = .error e) :
    StuckAfter c cs e [] ∨
      ∃ name, StuckAfter c cs e ('L' :: name) ∧ Plain name ∧
        (name ≠ [] → e.fault = .illegalCharacter) := by
  unfold readElementType at failed
  split at failed
  · cases failed
    exact .inl ⟨List.nil_prefix, rfl⟩
  · next tag tail hc =>
    split at failed
    · cases failed
    · split at failed
      · next object =>
        subst object
        obtain ⟨cs, rfl, rfl⟩ := encode_eq_cons (by decide) (spelled.symm.trans hc)
        exact readObjectType_stuck spelled failed
      · split at failed <;> cases failed <;> exact .inl ⟨List.nil_prefix, rfl⟩

theorem readFieldType_stuck {cs : List Char} (spelled : c.rest = encode cs)
    (failed : readFieldType c = .error e) :
    ∃ front, StuckAfter c cs e front ∧ Begun e.fault front := by
  unfold readFieldType at failed
  split at failed
  · cases failed
    exact ⟨[], ⟨List.nil_prefix, rfl⟩, .dimensions (k := 0) (Nat.zero_le _)⟩
  · next bounded =>
    generalize counted : dimensions c.rest = k at failed bounded
    have bounded : k ≤ 255 := Nat.not_lt.1 bounded
    have opened := replicate_dimensions_append c.rest
    rw [counted, spelled, ← encode_replicate] at opened
    obtain ⟨rest, rfl, later⟩ := encode_eq_append_of_ascii (fun c hc => by
      rw [List.eq_of_mem_replicate hc]
      decide) opened.symm
    have within : (c.skip k).rest = encode rest := by rw [Cursor.rest_skip, spelled, later]
    have length : (encode (List.replicate k '[')).length = k := by
      rw [encode_replicate, List.length_replicate]
    rcases readElementType_stuck within failed with
      ⟨-, position⟩ | ⟨name, ⟨cut, position⟩, plain, illegal⟩
    · refine ⟨_, ⟨List.prefix_append _ _, ?_⟩, .dimensions bounded⟩
      rw [position, length]
      rfl
    · refine ⟨_, ⟨(List.prefix_append_right_inj _).2 cut, ?_⟩, .named bounded plain illegal⟩
      rw [position, encode_append, List.length_append, length, Cursor.pos_skip, Nat.add_assoc]

/-! ## Where parameters cannot be read on -/

theorem readParameters_stuck {cs : List Char} (spelled : c.rest = encode cs)
    (failed : readParameters c = .error e) :
    ∃ (types : List (List Char)) (front : List Char), (∀ t ∈ types, FieldType id t) ∧
      StuckAfter c cs e (types.flatten ++ front) ∧ Begun e.fault front := by
  revert failed
  fun_induction readParameters c generalizing cs with
  | case1 c hc =>
    rintro ⟨⟩
    exact ⟨[], [], by simp, ⟨List.nil_prefix, rfl⟩, .dimensions (k := 0) (Nat.zero_le _)⟩
  | case2 =>
    intro failed
    cases failed
  | case3 c b after hc hb failure failed =>
    rintro ⟨⟩
    obtain ⟨front, stuck, begun⟩ := readFieldType_stuck spelled failed
    exact ⟨[], front, by simp, stuck, begun⟩
  | case4 c b after hc hb next read ih =>
    intro failed
    obtain ⟨bytes, ok, ⟨rest, start⟩, rfl⟩ := readFieldType_eq_ok_iff.1 read
    obtain ⟨type, later, rfl, rfl, rfl⟩ :=
      text_of_append_of_ends_ascii ok.ends_ascii (start.trans spelled)
    obtain ⟨types, front, okTypes, ⟨cut, position⟩, begun⟩ := ih (rest_skip_of_append start) failed
    refine ⟨type :: types, front, ?_, ⟨?_, ?_⟩, begun⟩
    · exact List.forall_mem_cons.2 ⟨fieldType_encode_iff.1 ok, okTypes⟩
    · rw [List.flatten_cons, List.append_assoc]
      exact (List.prefix_append_right_inj _).2 cut
    · rw [position, List.flatten_cons, List.append_assoc, encode_append type, List.length_append,
        Cursor.pos_skip, Nat.add_assoc]

theorem readReturnType_stuck {cs : List Char} (spelled : c.rest = encode cs)
    (failed : readReturnType c = .error e) :
    ∃ front, StuckAfter c cs e front ∧ Begun e.fault front := by
  unfold readReturnType at failed
  split at failed
  · cases failed
    exact ⟨[], ⟨List.nil_prefix, rfl⟩, .dimensions (k := 0) (Nat.zero_le _)⟩
  · split at failed
    · cases failed
    · exact readFieldType_stuck spelled failed

end TransformRegistry.Descriptor
