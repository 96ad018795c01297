import TransformRegistry.Store.TargetIndex

/-!
# Snapshots

A snapshot holds everything a store knows at one moment: an index for each kind that has been
registered, the set of all registered targets, and the set of their owners. The two sets answer the
loader's quick questions without a walk through the indexes.
-/

namespace TransformRegistry

/-- An instance, taken as a transformer of one kind. -/
structure Handle (I : Type) where
  kind : Kind
  id : I
deriving DecidableEq, Repr

/-- A kind without targets has no index. -/
structure Snapshot (I : Type) where
  indexes : PerKind (Option (TargetIndex I)) := .const none
  targets : List Target := []
  owners : List ClassName := []
  isSealed : Bool := false
deriving DecidableEq

namespace Snapshot

variable {I : Type} [DecidableEq I]

def empty : Snapshot I := {}

instance : Inhabited (Snapshot I) := ⟨empty⟩

/-! ## Questions -/

def kinds (s : Snapshot I) : List Kind := Kind.all.filter fun k => (s.indexes.get k).isSome

def isTargeted (s : Snapshot I) (t : Target) : Bool := s.targets.contains t

/-- Whether a transformer is registered for the class or a member of it. -/
def touchesClass (s : Snapshot I) (owner : ClassName) : Bool := s.owners.contains owner

/-- The same question about a class by its name as a loader has it, with dots or with slashes. -/
def needsClass (s : Snapshot I) (owner : String) : Bool :=
  if owner.toList.contains '/' then s.owners.any (·.text == owner.map dotted)
  else s.owners.any (·.text == owner)

omit [DecidableEq I] in
theorem needsClass_ofText (s : Snapshot I) (owner : String) :
    s.needsClass owner = s.touchesClass (.ofText owner) := by
  have found (text : String) (same : text = (ClassName.ofText owner).text) :
      s.owners.any (·.text == text) = s.touchesClass (.ofText owner) := by
    rw [touchesClass, Bool.eq_iff_iff, List.any_eq_true, List.contains_iff_mem]
    simp only [beq_iff_eq, same]
    constructor
    · rintro ⟨name, present, same⟩
      rwa [← ClassName.ext same]
    · exact fun present => ⟨_, present, rfl⟩
  unfold needsClass
  split
  · exact found _ rfl
  · next plain =>
    have slashFree : '/' ∉ owner.toList := by simpa using plain
    exact found owner (ClassName.text_ofText slashFree).symm

omit [DecidableEq I] in
@[simp] theorem needsClass_text (s : Snapshot I) (owner : ClassName) :
    s.needsClass owner.text = s.touchesClass owner := by
  rw [needsClass_ofText, ClassName.ofText_text]

def sequence (s : Snapshot I) (k : Kind) (t : Target) : List I :=
  match s.indexes.get k with
  | none => []
  | some ix => ix.sequence t

def handlesFor (s : Snapshot I) (t : Target) : List (Handle I) :=
  (s.sequence t.kind t).map (Handle.mk t.kind)

/-! ## Changes -/

/-- The index of a kind, empty if there is none yet. -/
def indexOf (s : Snapshot I) (k : Kind) : TargetIndex I := (s.indexes.get k).getD (.empty k)

def insertOne (s : Snapshot I) (policy : RepeatPolicy) (h : Handle I) (t : Target) :
    Except Refusal (Placement × Snapshot I) :=
  match (s.indexOf h.kind).insert policy t h.id with
  | .error e => .error e
  | .ok (placement, ix) =>
    .ok (placement, { s with
      indexes := s.indexes.set h.kind (some ix)
      targets := s.targets.insert t
      owners := s.owners.insert t.owner })

/-- Registers a transformer for each target in turn. The first refusal is the answer. -/
def insert (s : Snapshot I) (policy : RepeatPolicy) (h : Handle I) :
    List Target → Except Refusal (List Placement × Snapshot I)
  | [] => .ok ([], s)
  | t :: ts =>
    match s.insertOne policy h t with
    | .error e => .error e
    | .ok (placement, next) =>
      match next.insert policy h ts with
      | .error e => .error e
      | .ok (placements, last) => .ok (placement :: placements, last)

def close (s : Snapshot I) : Snapshot I := { s with isSealed := true }

omit [DecidableEq I] in
theorem close_of_sealed {s : Snapshot I} (closed : s.isSealed = true) : s.close = s := by
  cases s
  cases closed
  rfl

end Snapshot

end TransformRegistry
