import TransformRegistry.CodeUnit
import TransformRegistry.Proofs.Effects

/-!
# Calls of transformers

Which transformers are asked and applied, and in which order, shows in what they do. To speak of the
calls themselves, transformers are made to write each call down, in notes that stand beside the
state of the host, and then do what they did.
-/

namespace TransformRegistry

variable {I H E U V ν α N : Type} {rule : StoreRule I}

/-- Someone is asked, or applied to a unit. -/
inductive Call (ν E V : Type) where
  | vote (who : ν) (ballot : Ballot E)
  | transform (who : ν) (unit : V) (ballot : Ballot E)

/-! ## Notes beside the state of the host -/

namespace Session

def withNotes (s : Session I H) (notes : N) : Session I (H × N) :=
  ⟨s.store, s.trails, s.events, (s.host, notes)⟩

def withoutNotes (s : Session I (H × N)) : Session I H := ⟨s.store, s.trails, s.events, s.host.1⟩

def notes (s : Session I (H × N)) : N := s.host.2

@[simp] theorem store_withNotes (s : Session I H) (notes : N) :
    (s.withNotes notes).store = s.store := rfl

@[simp] theorem store_withoutNotes (s : Session I (H × N)) : s.withoutNotes.store = s.store := rfl

end Session

namespace SessionM

def besideNotes (x : SessionM I H α) : SessionM I (H × N) α := fun s =>
  match x s.withoutNotes with
  | .ok a t => .ok a (t.withNotes s.notes)
  | .error c t => .error c (t.withNotes s.notes)

def note (c : N) : SessionM I (H × List N) Unit :=
  modify fun s => s.withoutNotes.withNotes (s.notes ++ [c])

/-- What is noted in a call that begins with empty notes. -/
def noted (x : SessionM I (H × List N) α) (s : Session I H) : List N :=
  (x.after (s.withNotes [])).notes

theorem noted_congr {x y : SessionM I (H × List N) α} {s : Session I H}
    (h : x (s.withNotes []) = y (s.withNotes [])) : x.noted s = y.noted s := by
  unfold noted after
  rw [h]

theorem after_besideNotes (x : SessionM I H α) (s : Session I (H × N)) :
    (besideNotes x).after s = (x.after s.withoutNotes).withNotes s.notes := by
  unfold besideNotes after
  cases ran : x s.withoutNotes <;> simp only [ran]

theorem answer_besideNotes (x : SessionM I H α) (s : Session I (H × N)) :
    (besideNotes x).answer s = x.answer s.withoutNotes := by
  unfold besideNotes answer
  cases ran : x s.withoutNotes <;> simp only [ran]

theorem notes_of_besideNotes {x : SessionM I H α} {s t : Session I (H × N)} {a : α}
    (ran : besideNotes x s = .ok a t) : t.notes = s.notes := by
  have left := after_besideNotes x s
  rw [after_of_ok ran] at left
  rw [left]
  rfl

theorem obeys_note (c : N) : (note c : SessionM I (H × List N) Unit).Obeys rule :=
  obeys_of_store_eq fun _ => rfl

theorem obeys_besideNotes {x : SessionM I H α} (hx : x.Obeys rule) :
    (besideNotes x : SessionM I (H × N) α).Obeys rule := by
  intro s
  have bare := hx s.withoutNotes
  unfold besideNotes
  unfold after at bare ⊢
  cases hs : x s.withoutNotes <;> rw [hs] at bare <;> simpa [hs] using bare

end SessionM

open SessionM

/-! ## Transformers that write their calls down -/

/-- The transformer, with each call written down under a name before it is answered. -/
def Transformer.writing (t : Transformer I H E U) (who : ν) (seen : U → V) :
    Transformer I (H × List (Call ν E V)) E U where
  label := besideNotes t.label
  targets := besideNotes t.targets
  vote ballot := do
    note (.vote who ballot)
    besideNotes (t.vote ballot)
  transform unit ballot := do
    note (.transform who (seen unit) ballot)
    besideNotes (t.transform unit ballot)

theorem Transformer.AppliesUnder.writing {t : Transformer I H E U} (ht : t.AppliesUnder rule)
    (who : ν) (seen : U → V) : (t.writing who seen).AppliesUnder rule where
  label := obeys_besideNotes ht.label
  vote ballot := obeys_bind (obeys_note _) fun _ => obeys_besideNotes (ht.vote ballot)
  transform unit ballot :=
    obeys_bind (obeys_note _) fun _ => obeys_besideNotes (ht.transform unit ballot)

/-- The transformers of a sequence write their calls down under their places. -/
def writingPlaces (sequence : List (Transformer I H E U)) :
    List (Transformer I (H × List (Call Nat E U)) E U) :=
  sequence.mapIdx fun place t => t.writing place id

def Roster.writing {U : Kind → Type} (r : Roster I H E U) :
    Roster I (H × List (Call (Handle I) E (CodeUnit U))) E U where
  transformer k i := (r.transformer k i).writing ⟨k, i⟩ (CodeUnit.mk k)

theorem Roster.AppliesUnder.writing {U : Kind → Type} {r : Roster I H E U}
    (hr : r.AppliesUnder rule) : r.writing.AppliesUnder rule :=
  fun k i => (hr k i).writing ..

end TransformRegistry
