/-!
# Names of classes

A class may be written with dots or with slashes between its packages. The two spellings name the
same class, so a name is kept with dots.
-/

namespace TransformRegistry

def dotted (c : Char) : Char := if c = '/' then '.' else c

theorem dotted_ne_slash (c : Char) : dotted c ≠ '/' := by
  unfold dotted
  split
  · decide
  · assumption

theorem dotted_of_ne {c : Char} (h : c ≠ '/') : dotted c = c := if_neg h

/-- The name of a class, with dots between its packages. -/
structure ClassName where
  text : String
  slashFree : '/' ∉ text.toList
deriving DecidableEq

namespace ClassName

/-- Reads either spelling. Any text is a name. -/
def ofText (s : String) : ClassName where
  text := s.map dotted
  slashFree := by simp [String.toList_map, dotted_ne_slash]

instance : Repr ClassName := ⟨fun n _ => repr n.text⟩

instance : Inhabited ClassName := ⟨ofText ""⟩

/-- Names are ordered by their code points. -/
instance : Ord ClassName := ⟨compareOn text⟩

@[ext] theorem ext {a b : ClassName} (h : a.text = b.text) : a = b := by
  cases a; cases b; cases h; rfl

theorem text_ofText {s : String} (slashFree : '/' ∉ s.toList) : (ofText s).text = s := by
  apply String.toList_inj.1
  show (s.map dotted).toList = _
  rw [String.toList_map]
  rw [List.map_congr_left fun c hc => dotted_of_ne fun h => slashFree (h ▸ hc)]
  exact List.map_id' _

@[simp] theorem ofText_text (n : ClassName) : ofText n.text = n := ext (text_ofText n.slashFree)

end ClassName

end TransformRegistry
