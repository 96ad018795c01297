import TransformRegistry.Descriptor.Check
import TransformRegistry.Proofs.AsciiBytes

/-!
# The grammar of descriptors

What a field type is, over any alphabet that has the ASCII characters: the bytes, and the characters
themselves. The bytes of a text spell a field type exactly where the text does.
-/

namespace TransformRegistry.Descriptor

open Text

/-! ## Field types -/

def baseTags : List Char := ['B', 'C', 'D', 'F', 'I', 'J', 'S', 'Z']

/-- The characters that no segment of a class name holds. -/
def segmentBreaks : List Char := ['.', ';', '[', '(', ')', '/']

section Grammar

variable {α : Type} (letter : Char → α)

structure Segment (segment : List α) : Prop where
  nonempty : segment ≠ []
  unbroken : ∀ c ∈ segmentBreaks, letter c ∉ segment

/-- A name is made of segments with slashes between them. -/
inductive ObjectName : List α → Prop
  | join {segments : List (List α)} : segments ≠ [] → (∀ s ∈ segments, Segment letter s) →
      ObjectName ([letter '/'].intercalate segments)

inductive ElementType : List α → Prop
  | base {tag : Char} : tag ∈ baseTags → ElementType [letter tag]
  | object {name : List α} : ObjectName letter name →
      ElementType (letter 'L' :: name ++ [letter ';'])

/-- An array of at most 255 dimensions, or of none. -/
inductive FieldType : List α → Prop
  | array {k : Nat} {element : List α} : k ≤ 255 → ElementType letter element →
      FieldType (List.replicate k (letter '[') ++ element)

end Grammar

abbrev byte (c : Char) : UInt8 := c.toUInt8

/-- The text is a field type. -/
def IsFieldType (text : String) : Prop := FieldType id text.toList

/-! ## A text and its bytes -/

theorem isAscii_of_mem_segmentBreaks (c : Char) (hc : c ∈ segmentBreaks) : IsAscii c := by
  have all : segmentBreaks.all (IsAscii ·) = true := by decide
  exact of_decide_eq_true (List.all_eq_true.1 all c hc)

theorem isAscii_of_mem_baseTags (c : Char) (hc : c ∈ baseTags) : IsAscii c := by
  have all : baseTags.all (IsAscii ·) = true := by decide
  exact of_decide_eq_true (List.all_eq_true.1 all c hc)

theorem segment_encode_iff {cs : List Char} : Segment byte (encode cs) ↔ Segment id cs := by
  have same : ∀ c ∈ segmentBreaks, byte c ∉ encode cs ↔ c ∉ cs := fun c hc =>
    not_congr (mem_encode_iff (isAscii_of_mem_segmentBreaks c hc))
  constructor
  · rintro ⟨nonempty, unbroken⟩
    exact ⟨fun h => nonempty (encode_eq_nil_iff.2 h), fun c hc => (same c hc).1 (unbroken c hc)⟩
  · rintro ⟨nonempty, unbroken⟩
    exact ⟨fun h => nonempty (encode_eq_nil_iff.1 h), fun c hc => (same c hc).2 (unbroken c hc)⟩

theorem encode_intercalate (segments : List (List Char)) :
    encode (['/'].intercalate segments) = [byte '/'].intercalate (segments.map encode) := by
  induction segments with
  | nil => rfl
  | cons s rest ih =>
    cases rest with
    | nil => simp
    | cons t rest =>
      rw [List.intercalate_cons_cons, encode_append, encode_append, ih]
      simp only [List.map_cons, List.intercalate_cons_cons]
      rfl

theorem exists_of_encode_eq_intercalate {cs : List Char} {pieces : List (List UInt8)}
    (some : pieces ≠ []) (spelled : encode cs = [byte '/'].intercalate pieces) :
    ∃ segments, cs = ['/'].intercalate segments ∧ pieces = segments.map encode := by
  induction pieces generalizing cs with
  | nil => exact absurd rfl some
  | cons s rest ih =>
    cases rest with
    | nil =>
      rw [List.intercalate_singleton] at spelled
      exact ⟨[cs], by rw [List.intercalate_singleton], by rw [← spelled]; rfl⟩
    | cons t rest =>
      rw [List.intercalate_cons_cons, List.append_assoc] at spelled
      obtain ⟨l, r, rfl, rfl, later⟩ := encode_eq_append_cons (by decide) spelled
      obtain ⟨segments, rfl, pieces⟩ := ih (by simp) later.symm
      have more : segments ≠ [] := by
        rintro rfl
        cases pieces
      refine ⟨l :: segments, ?_, by rw [pieces]; rfl⟩
      rw [List.intercalate_cons_of_ne_nil more, List.append_assoc]
      rfl

theorem objectName_encode_iff {cs : List Char} :
    ObjectName byte (encode cs) ↔ ObjectName id cs := by
  constructor
  · intro h
    generalize spelled : encode cs = bytes at h
    obtain @⟨pieces, some, ok⟩ := h
    obtain ⟨segments, rfl, rfl⟩ := exists_of_encode_eq_intercalate some spelled
    refine .join (by simpa using some) fun s hs => ?_
    exact segment_encode_iff.1 (ok _ (List.mem_map_of_mem hs))
  · rintro @⟨segments, some, ok⟩
    rw [id, encode_intercalate]
    refine .join (by simpa using some) fun piece hp => ?_
    obtain ⟨s, hs, rfl⟩ := List.mem_map.1 hp
    exact segment_encode_iff.2 (ok s hs)

theorem elementType_encode_iff {cs : List Char} :
    ElementType byte (encode cs) ↔ ElementType id cs := by
  constructor
  · intro h
    generalize spelled : encode cs = bytes at h
    cases h with
    | base ht =>
      obtain ⟨r, rfl, last⟩ := encode_eq_cons (isAscii_of_mem_baseTags _ ht) spelled
      obtain rfl := encode_eq_nil_iff.1 last.symm
      exact .base ht
    | object hn =>
      obtain ⟨r, rfl, inner⟩ := encode_eq_cons (a := 'L') (by decide) spelled
      obtain ⟨name, r, rfl, rfl, last⟩ := encode_eq_append_cons (by decide) inner.symm
      obtain rfl := encode_eq_nil_iff.1 last.symm
      exact .object (objectName_encode_iff.1 hn)
  · intro h
    cases h with
    | base ht =>
      rw [encode_map_of_ascii fun c hc => ?_]
      · exact .base ht
      · rw [List.mem_singleton.1 hc]
        exact isAscii_of_mem_baseTags _ ht
    | @object name hn =>
      have spelled : encode ('L' :: name ++ [';']) = byte 'L' :: encode name ++ [byte ';'] := by
        rw [encode_append]
        rfl
      rw [id, id, spelled]
      exact .object (objectName_encode_iff.2 hn)

theorem encode_replicate (k : Nat) :
    encode (List.replicate k '[') = List.replicate k (byte '[') := by
  rw [encode_map_of_ascii fun c hc => ?_, List.map_replicate]
  rw [List.eq_of_mem_replicate hc]
  decide

theorem fieldType_encode_iff {cs : List Char} : FieldType byte (encode cs) ↔ FieldType id cs := by
  constructor
  · intro h
    generalize spelled : encode cs = bytes at h
    obtain @⟨k, element, bounded, ok⟩ := h
    rw [← encode_replicate] at spelled
    obtain ⟨rest, rfl, rfl⟩ := encode_eq_append_of_ascii (fun c hc => by
      rw [List.eq_of_mem_replicate hc]
      decide) spelled
    exact .array bounded (elementType_encode_iff.1 ok)
  · rintro @⟨k, element, bounded, ok⟩
    rw [id, encode_append, encode_replicate]
    exact .array bounded (elementType_encode_iff.2 ok)

theorem isFieldType_iff {text : String} : IsFieldType text ↔ FieldType byte (utf8 text) :=
  fieldType_encode_iff.symm

end TransformRegistry.Descriptor
