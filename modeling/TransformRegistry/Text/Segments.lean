/-!
# Segments between separators

A list is cut at every separator. There is always one segment more than there are separators, so
a separator at either end, or two in a row, leave an empty segment.
-/

namespace TransformRegistry.Text

variable {α : Type}

def consFirst (a : α) : List (List α) → List (List α)
  | [] => [[a]]
  | seg :: segs => (a :: seg) :: segs

/-- The segments between the separators. -/
def segments (isSep : α → Bool) : List α → List (List α)
  | [] => [[]]
  | a :: rest => if isSep a then [] :: segments isSep rest else consFirst a (segments isSep rest)

def hasEmptySegment (isSep : α → Bool) (l : List α) : Bool := (segments isSep l).any List.isEmpty

@[simp] theorem segments_nil (isSep : α → Bool) : segments isSep [] = [[]] := rfl

theorem segments_ne_nil (isSep : α → Bool) (l : List α) : segments isSep l ≠ [] := by
  cases l with
  | nil => simp
  | cons a rest =>
    rw [segments]
    split
    · simp
    · cases segments isSep rest <;> simp [consFirst]

theorem consFirst_eq_modifyHead (a : α) {segs : List (List α)} (h : segs ≠ []) :
    consFirst a segs = segs.modifyHead (a :: ·) := by
  cases segs with
  | nil => exact absurd rfl h
  | cons seg segs => rfl

theorem segments_eq_splitOnP (isSep : α → Bool) (l : List α) :
    segments isSep l = l.splitOnP isSep := by
  induction l with
  | nil => rfl
  | cons a rest ih =>
    rw [segments, List.splitOnP_cons_eq_if_modifyHead,
      consFirst_eq_modifyHead a (segments_ne_nil isSep rest), ih]

theorem hasEmptySegment_iff {isSep : α → Bool} {l : List α} :
    hasEmptySegment isSep l = true ↔ [] ∈ l.splitOnP isSep := by
  rw [hasEmptySegment, segments_eq_splitOnP, List.any_eq_true]
  simp only [List.isEmpty_iff, exists_eq_right]

theorem segments_congr {isSep other : α → Bool} {l : List α} (h : ∀ a ∈ l, isSep a = other a) :
    segments isSep l = segments other l := by
  induction l with
  | nil => rfl
  | cons a rest ih =>
    rw [List.forall_mem_cons] at h
    rw [segments, segments, h.1, ih h.2]

theorem flatten_consFirst (a : α) (segs : List (List α)) :
    (consFirst a segs).flatten = a :: segs.flatten := by
  cases segs <;> rfl

theorem flatten_segments (isSep : α → Bool) (l : List α) :
    (segments isSep l).flatten = l.filter (!isSep ·) := by
  induction l with
  | nil => rfl
  | cons a rest ih =>
    rw [segments, List.filter_cons]
    cases isSep a with
    | true => exact ih
    | false =>
      rw [← ih]
      exact flatten_consFirst a _

theorem mem_segments_iff {isSep : α → Bool} {l : List α} {a : α} :
    (∃ s ∈ segments isSep l, a ∈ s) ↔ a ∈ l ∧ isSep a = false := by
  rw [← List.mem_flatten, flatten_segments, List.mem_filter, Bool.not_eq_true']

theorem segments_map {β : Type} (f : α → β) (isSep : β → Bool) (l : List α) :
    segments isSep (l.map f) = (segments (fun a => isSep (f a)) l).map (List.map f) := by
  induction l with
  | nil => rfl
  | cons a rest ih =>
    rw [List.map_cons, segments, segments, ih]
    split
    · rfl
    · cases segments (fun a => isSep (f a)) rest <;> rfl

/-- What is appended goes on where the last segment stopped. -/
theorem segments_append (isSep : α → Bool) (l : List α) :
    ∃ closed last, segments isSep l = closed ++ [last] ∧
      ∀ {m s rest}, segments isSep m = s :: rest →
        segments isSep (l ++ m) = closed ++ (last ++ s) :: rest := by
  induction l with
  | nil => exact ⟨[], [], rfl, fun cut => cut⟩
  | cons a l ih =>
    obtain ⟨closed, last, cut, append⟩ := ih
    by_cases sep : isSep a
    · refine ⟨[] :: closed, last, by simp [segments, sep, cut], fun later => ?_⟩
      simp [segments, sep, append later]
    · cases closed with
      | nil =>
        refine ⟨[], a :: last, by simp [segments, sep, cut, consFirst], fun later => ?_⟩
        simp [segments, sep, append later, consFirst]
      | cons s closed =>
        refine ⟨(a :: s) :: closed, last, by simp [segments, sep, cut, consFirst], fun later => ?_⟩
        simp [segments, sep, append later, consFirst]

theorem segments_of_unbroken {isSep : α → Bool} {l : List α} (hl : ∀ a ∈ l, isSep a = false) :
    segments isSep l = [l] := by
  rw [segments_eq_splitOnP]
  exact List.splitOnP_eq_singleton hl

theorem segments_append_of_unbroken {isSep : α → Bool} {l m s : List α} {rest : List (List α)}
    (hl : ∀ a ∈ l, isSep a = false) (later : segments isSep m = s :: rest) :
    segments isSep (l ++ m) = (l ++ s) :: rest := by
  obtain ⟨closed, last, cut, append⟩ := segments_append isSep l
  rw [segments_of_unbroken hl, eq_comm, List.append_eq_singleton_iff] at cut
  rcases cut with ⟨rfl, same⟩ | ⟨-, none⟩
  · cases same
    exact append later
  · cases none

theorem append_split {a : α} {l r before after : List α} (split : l ++ r = before ++ a :: after) :
    (∃ left, l = before ++ a :: left ∧ after = left ++ r) ∨
      ∃ own, before = l ++ own ∧ r = own ++ a :: after := by
  rcases List.append_eq_append_iff.1 split with ⟨own, rfl, later⟩ | ⟨own, rfl, later⟩
  · exact .inr ⟨own, rfl, later⟩
  · rcases List.cons_eq_append_iff.1 later with ⟨rfl, rfl⟩ | ⟨left, rfl, rfl⟩
    · exact .inr ⟨[], by simp, rfl⟩
    · exact .inl ⟨left, rfl, rfl⟩

end TransformRegistry.Text
