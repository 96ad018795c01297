import TransformRegistry.Text.Segments
import TransformRegistry.Text.Utf8

/-!
# ASCII characters among the bytes

An ASCII character is one byte, and no other character has that byte among its own. So to look for
it in the bytes of a text is to look for it in the text, and to cut the bytes at it is to cut the
text.
-/

namespace TransformRegistry.Text

def IsAscii (c : Char) : Prop := c.toNat < 128

instance (c : Char) : Decidable (IsAscii c) := inferInstanceAs (Decidable (_ < _))

variable {a c : Char} {cs : List Char}

/-! ## One character -/

theorem utf8EncodeChar_of_ascii (hc : IsAscii c) : String.utf8EncodeChar c = [c.toUInt8] := by
  have small : c.val.toNat ≤ 127 := Nat.le_of_lt_succ hc
  unfold String.utf8EncodeChar
  rw [if_pos small]
  rfl

theorem le_of_mem_utf8EncodeChar (hc : ¬IsAscii c) {b : UInt8}
    (hb : b ∈ String.utf8EncodeChar c) : 128 ≤ b.toNat := by
  have large : ¬c.val.toNat ≤ 127 := fun h => hc (Nat.lt_succ_of_le h)
  unfold String.utf8EncodeChar at hb
  rw [if_neg large] at hb
  split at hb
  · simp only [List.mem_cons, List.not_mem_nil, or_false] at hb
    rcases hb with rfl | rfl <;> simp <;> omega
  · split at hb
    · simp only [List.mem_cons, List.not_mem_nil, or_false] at hb
      rcases hb with rfl | rfl | rfl <;> simp <;> omega
    · simp only [List.mem_cons, List.not_mem_nil, or_false] at hb
      rcases hb with rfl | rfl | rfl | rfl <;> simp <;> omega

theorem toNat_toUInt8_of_ascii (hc : IsAscii c) : c.toUInt8.toNat = c.toNat := by
  have small : c.val.toNat < 128 := hc
  rw [Char.toUInt8, UInt32.toNat_toUInt8]
  exact Nat.mod_eq_of_lt (by omega)

theorem toUInt8_inj_of_ascii (ha : IsAscii a) (hc : IsAscii c) :
    a.toUInt8 = c.toUInt8 ↔ a = c := by
  constructor
  · intro same
    apply Char.toNat_inj.1
    rw [← toNat_toUInt8_of_ascii ha, ← toNat_toUInt8_of_ascii hc, same]
  · rintro rfl
    rfl

theorem mem_utf8EncodeChar_iff (ha : IsAscii a) :
    a.toUInt8 ∈ String.utf8EncodeChar c ↔ c = a := by
  by_cases hc : IsAscii c
  · rw [utf8EncodeChar_of_ascii hc, List.mem_singleton, toUInt8_inj_of_ascii ha hc]
    exact eq_comm
  · constructor
    · intro hb
      have large := le_of_mem_utf8EncodeChar hc hb
      rw [toNat_toUInt8_of_ascii ha] at large
      exact absurd ha (by unfold IsAscii; omega)
    · rintro rfl
      exact absurd ha hc

/-! ## A whole text -/

theorem mem_encode_iff (ha : IsAscii a) : a.toUInt8 ∈ encode cs ↔ a ∈ cs := by
  simp only [encode, List.mem_flatMap, mem_utf8EncodeChar_iff ha, exists_eq_right]

theorem encode_cons_of_ascii {a : Char} (ha : IsAscii a) (cs : List Char) :
    encode (a :: cs) = a.toUInt8 :: encode cs := by
  rw [encode_cons, utf8EncodeChar_of_ascii ha]
  rfl

theorem encode_eq_nil_iff : encode cs = [] ↔ cs = [] := by
  cases cs with
  | nil => simp
  | cons c rest => simp [String.utf8EncodeChar_ne_nil]

theorem encode_map_of_ascii (h : ∀ c ∈ cs, IsAscii c) : encode cs = cs.map Char.toUInt8 := by
  induction cs with
  | nil => rfl
  | cons c rest ih =>
    rw [List.forall_mem_cons] at h
    rw [encode_cons, utf8EncodeChar_of_ascii h.1, ih h.2]
    rfl

/-- Where the bytes are cut at an ASCII character, the text is. -/
theorem encode_eq_append_cons (ha : IsAscii a) {before after : List UInt8}
    (split : encode cs = before ++ a.toUInt8 :: after) :
    ∃ l r, cs = l ++ a :: r ∧ before = encode l ∧ after = encode r := by
  induction cs generalizing before with
  | nil => simp at split
  | cons c rest ih =>
    rw [encode_cons] at split
    rcases append_split split with ⟨left, first, rfl⟩ | ⟨own, rfl, later⟩
    · -- The byte is one of this character, so the character is the one looked for.
      obtain rfl : c = a := (mem_utf8EncodeChar_iff ha).1 (by simp [first])
      rw [utf8EncodeChar_of_ascii ha] at first
      rcases List.singleton_eq_append_iff.1 first with ⟨rfl, alone⟩ | ⟨-, none⟩
      · cases alone
        exact ⟨[], rest, rfl, rfl, rfl⟩
      · cases none
    · obtain ⟨l, r, rfl, rfl, rfl⟩ := ih later
      exact ⟨c :: l, r, rfl, rfl, rfl⟩

theorem encode_eq_cons (ha : IsAscii a) {after : List UInt8}
    (split : encode cs = a.toUInt8 :: after) : ∃ r, cs = a :: r ∧ after = encode r := by
  have split : encode cs = [] ++ a.toUInt8 :: after := split
  obtain ⟨l, r, rfl, none, rfl⟩ := encode_eq_append_cons ha split
  obtain rfl := encode_eq_nil_iff.1 none.symm
  exact ⟨r, rfl, rfl⟩

theorem encode_eq_append_of_ascii {front : List Char} (hf : ∀ c ∈ front, IsAscii c)
    {after : List UInt8} (split : encode cs = encode front ++ after) :
    ∃ r, cs = front ++ r ∧ after = encode r := by
  induction front generalizing cs with
  | nil => exact ⟨cs, rfl, split.symm⟩
  | cons c rest ih =>
    rw [List.forall_mem_cons] at hf
    rw [encode_cons, utf8EncodeChar_of_ascii hf.1] at split
    obtain ⟨r, rfl, more⟩ := encode_eq_cons hf.1 split
    obtain ⟨r, rfl, rfl⟩ := ih hf.2 more.symm
    exact ⟨r, rfl, rfl⟩

theorem text_of_append_of_ends_ascii {bytes after : List UInt8} {cs : List Char}
    (ends : ∃ front last, IsAscii last ∧ bytes = front ++ [last.toUInt8])
    (spelled : bytes ++ after = encode cs) :
    ∃ text rest, cs = text ++ rest ∧ bytes = encode text ∧ after = encode rest := by
  obtain ⟨front, last, ascii, rfl⟩ := ends
  rw [List.append_assoc] at spelled
  obtain ⟨l, r, rfl, rfl, rfl⟩ := encode_eq_append_cons ascii spelled.symm
  exact ⟨l ++ [last], r, by simp, by simp [utf8EncodeChar_of_ascii ascii], rfl⟩

theorem utf8_inj {s t : String} : utf8 s = utf8 t ↔ s = t := by
  constructor
  · intro same
    apply String.toByteArray_inj.1
    rw [← toByteArray_utf8, ← toByteArray_utf8, same]
  · rintro rfl
    rfl

theorem utf8_ofList (cs : List Char) : utf8 (String.ofList cs) = encode cs := by
  rw [utf8, String.toList_ofList]

theorem utf8_append (s t : String) : utf8 (s ++ t) = utf8 s ++ utf8 t := by
  rw [utf8, String.toList_append, encode_append]
  rfl

end TransformRegistry.Text
