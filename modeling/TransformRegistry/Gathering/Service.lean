import TransformRegistry.Session.Registration

/-!
# Services

A service contributes transformers. Its name is its own: a second service of the same name is
refused.
-/

namespace TransformRegistry

structure Service (I H : Type) where
  name : String
  /-- The transformers it offers, or the reason why it offers none. -/
  transformers : SessionM I H (Except String (List (Handle I)))

/-- A service of that name is there already. -/
structure DuplicateService where
  service : String
deriving DecidableEq, Repr

def DuplicateService.message (e : DuplicateService) : String :=
  "duplicate transformation service " ++ Text.quoted e.service

/-- The services in the order in which they came, and the set of their names. -/
structure Services (I H : Type) where
  list : List (Service I H) := []
  seen : List String := []
  inStep : ∀ name, name ∈ seen ↔ name ∈ list.map (·.name) := by simp

namespace Services

variable {I H : Type}

def empty : Services I H := {}

/-- These services, whatever their names are. -/
def ofList (list : List (Service I H)) : Services I H where
  list
  seen := list.map (·.name)
  inStep _ := Iff.rfl

@[simp] theorem list_ofList (list : List (Service I H)) : (ofList list).list = list := rfl

def names (ss : Services I H) : List String := ss.list.map (·.name)

def size (ss : Services I H) : Nat := ss.list.length

def isEmpty (ss : Services I H) : Bool := ss.list.isEmpty

def push (ss : Services I H) (s : Service I H) : Services I H where
  list := ss.list ++ [s]
  seen := ss.seen.insert s.name
  inStep := by simp [ss.inStep, or_comm]

def add (ss : Services I H) (s : Service I H) : Except DuplicateService (Services I H) :=
  if s.name ∈ ss.seen then .error ⟨s.name⟩ else .ok (ss.push s)

end Services

end TransformRegistry
