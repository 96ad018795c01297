/-!
# Lists by key

A list for each key that has been used. The keys stand in the order of their first use, and a list
only ever grows at its end.
-/

namespace TransformRegistry

structure Keyed (κ α : Type) where
  entries : List (κ × List α)
deriving Repr, DecidableEq

namespace Keyed

variable {κ α : Type} [DecidableEq κ]

def empty : Keyed κ α := ⟨[]⟩

instance : Inhabited (Keyed κ α) := ⟨empty⟩

def keys (m : Keyed κ α) : List κ := m.entries.map (·.1)

/-- The list under a key, empty where the key is not in use. -/
def get (m : Keyed κ α) (k : κ) : List α := (m.entries.lookup k).getD []

def contains (m : Keyed κ α) (k : κ) : Bool := (m.entries.lookup k).isSome

/-- The entries with `xs` at the end of the list under `k`. -/
def appendEntry (k : κ) (xs : List α) : List (κ × List α) → List (κ × List α)
  | [] => [(k, xs)]
  | (l, ys) :: rest => if l = k then (l, ys ++ xs) :: rest else (l, ys) :: appendEntry k xs rest

def append (m : Keyed κ α) (k : κ) (xs : List α) : Keyed κ α := ⟨appendEntry k xs m.entries⟩

def remove (m : Keyed κ α) (k : κ) : Keyed κ α := ⟨m.entries.filter (·.1 ≠ k)⟩

/-! ## What is found after a change -/

@[simp] theorem get_empty (k : κ) : (empty : Keyed κ α).get k = [] := rfl

omit [DecidableEq κ] in
@[simp] theorem keys_empty : (empty : Keyed κ α).keys = [] := rfl

theorem lookup_cons_self (k : κ) (xs : List α) (rest : List (κ × List α)) :
    ((k, xs) :: rest).lookup k = some xs := by simp

theorem lookup_cons_of_ne {k l : κ} (xs : List α) (rest : List (κ × List α)) (h : l ≠ k) :
    ((l, xs) :: rest).lookup k = rest.lookup k := by
  rw [List.lookup_cons, beq_eq_false_iff_ne.2 (Ne.symm h)]

theorem lookup_appendEntry_self (k : κ) (xs : List α) (es : List (κ × List α)) :
    (appendEntry k xs es).lookup k = some ((es.lookup k).getD [] ++ xs) := by
  induction es with
  | nil => simp [appendEntry]
  | cons e rest ih =>
    obtain ⟨l, ys⟩ := e
    rw [appendEntry]
    split
    · next h => subst h; simp
    · next h => rw [lookup_cons_of_ne _ _ h, lookup_cons_of_ne _ _ h, ih]

theorem lookup_appendEntry_of_ne {k l : κ} (xs : List α) (es : List (κ × List α)) (h : l ≠ k) :
    (appendEntry k xs es).lookup l = es.lookup l := by
  induction es with
  | nil => simp [appendEntry, lookup_cons_of_ne _ _ (Ne.symm h)]
  | cons e rest ih =>
    obtain ⟨m, ys⟩ := e
    rw [appendEntry]
    split
    · next hm =>
      subst hm
      rw [lookup_cons_of_ne _ _ (Ne.symm h), lookup_cons_of_ne _ _ (Ne.symm h)]
    · next hm =>
      by_cases hl : m = l
      · subst hl; simp
      · rw [lookup_cons_of_ne _ _ hl, lookup_cons_of_ne _ _ hl, ih]

theorem get_of_not_mem_keys {m : Keyed κ α} {k : κ} (h : k ∉ m.keys) : m.get k = [] := by
  have absent : m.entries.lookup k = none := by
    rw [List.lookup_eq_none_iff]
    intro e he
    rw [bne_iff_ne]
    rintro rfl
    exact h (List.mem_map_of_mem he)
  rw [get, absent, Option.getD_none]

@[simp] theorem get_append_self (m : Keyed κ α) (k : κ) (xs : List α) :
    (m.append k xs).get k = m.get k ++ xs := by
  simp [get, append, lookup_appendEntry_self]

theorem get_append_of_ne (m : Keyed κ α) {k l : κ} (xs : List α) (h : l ≠ k) :
    (m.append k xs).get l = m.get l := by
  simp [get, append, lookup_appendEntry_of_ne xs _ h]

theorem lookup_filter_ne {k l : κ} (es : List (κ × List α)) (h : l ≠ k) :
    (es.filter (·.1 ≠ k)).lookup l = es.lookup l := by
  induction es with
  | nil => rfl
  | cons e rest ih =>
    obtain ⟨m, ys⟩ := e
    by_cases hm : m = k
    · subst hm
      rw [List.filter_cons_of_neg (by simp), lookup_cons_of_ne _ _ (Ne.symm h), ih]
    · rw [List.filter_cons_of_pos (by simpa using hm)]
      by_cases hl : m = l
      · subst hl; simp
      · rw [lookup_cons_of_ne _ _ hl, lookup_cons_of_ne _ _ hl, ih]

theorem get_remove_of_ne (m : Keyed κ α) {k l : κ} (h : l ≠ k) :
    (m.remove k).get l = m.get l := by
  rw [get, get, remove, lookup_filter_ne _ h]

theorem entries_eq_map {m : Keyed κ α} (distinct : m.keys.Nodup) :
    m.entries = m.keys.map fun k => (k, m.get k) := by
  obtain ⟨es⟩ := m
  simp only [keys, get] at distinct ⊢
  induction es with
  | nil => rfl
  | cons e rest ih =>
    obtain ⟨k, xs⟩ := e
    obtain ⟨fresh, distinct⟩ := List.nodup_cons.1 distinct
    have later : ∀ l ∈ rest.map (·.1), ((k, xs) :: rest).lookup l = rest.lookup l :=
      fun l hl => lookup_cons_of_ne _ _ fun same => fresh (same ▸ hl)
    rw [List.map_cons, List.map_cons, lookup_cons_self, Option.getD_some]
    refine congrArg ((k, xs) :: ·) ((ih distinct).trans (List.map_congr_left fun l hl => ?_))
    rw [later l hl]

/-! ## The keys after a change -/

theorem map_fst_appendEntry (k : κ) (xs : List α) (es : List (κ × List α)) :
    (appendEntry k xs es).map (·.1) =
      if k ∈ es.map (·.1) then es.map (·.1) else es.map (·.1) ++ [k] := by
  induction es with
  | nil => simp [appendEntry]
  | cons e rest ih =>
    obtain ⟨l, ys⟩ := e
    rw [appendEntry]
    by_cases h : l = k
    · simp [h]
    · rw [if_neg h, List.map_cons, ih]
      by_cases hr : k ∈ rest.map (·.1)
      · rw [if_pos hr, if_pos (by simp [hr]), List.map_cons]
      · rw [if_neg hr, if_neg (by simp [hr, Ne.symm h]), List.map_cons, List.cons_append]

theorem keys_append (m : Keyed κ α) (k : κ) (xs : List α) :
    (m.append k xs).keys = if k ∈ m.keys then m.keys else m.keys ++ [k] :=
  map_fst_appendEntry k xs m.entries

theorem keys_remove (m : Keyed κ α) (k : κ) : (m.remove k).keys = m.keys.filter (· ≠ k) := by
  rw [keys, keys, remove, List.filter_map]
  rfl

@[simp] theorem get_remove_self (m : Keyed κ α) (k : κ) : (m.remove k).get k = [] := by
  apply get_of_not_mem_keys
  simp [keys_remove]

theorem contains_iff (m : Keyed κ α) (k : κ) : m.contains k = true ↔ k ∈ m.keys := by
  rw [contains, List.lookup_isSome_iff, keys, List.mem_map]
  simp only [beq_iff_eq]
  constructor
  · rintro ⟨e, he, same⟩
    exact ⟨e, he, same.symm⟩
  · rintro ⟨e, he, same⟩
    exact ⟨e, he, same.symm⟩

end Keyed

end TransformRegistry
