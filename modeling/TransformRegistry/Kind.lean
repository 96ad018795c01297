import TransformRegistry.Json.Reader

/-!
# Kinds of code units

A transformer changes classes, methods or fields.
-/

namespace TransformRegistry

/-- What sort of code unit something is or applies to. -/
inductive Kind where
  | cls
  | method
  | field
deriving DecidableEq, Repr, Inhabited

namespace Kind

def all : List Kind := [.cls, .method, .field]

def name : Kind → String
  | .cls => "class"
  | .method => "method"
  | .field => "field"

/-- The kind with a capital, as it stands in a record. -/
def title : Kind → String
  | .cls => "Class"
  | .method => "Method"
  | .field => "Field"

def ofName? (s : String) : Option Kind := all.find? (·.name == s)

def isMember (k : Kind) : Bool := k != .cls

def index : Kind → Nat
  | .cls => 0
  | .method => 1
  | .field => 2

instance : Ord Kind := ⟨compareOn index⟩

def toJson (k : Kind) : Json := .ofText k.name

def ofJson? : Json → Option Kind := Json.choice? ofName?

theorem mem_all (k : Kind) : k ∈ all := by cases k <;> decide

theorem index_eq (k : Kind) : all[k.index]? = some k := by cases k <;> rfl

@[simp] theorem ofName?_name (k : Kind) : ofName? k.name = some k := by cases k <;> decide

end Kind

structure PerKind (α : Type) where
  cls : α
  method : α
  field : α
deriving DecidableEq, Repr

namespace PerKind

variable {α : Type}

def const (a : α) : PerKind α := ⟨a, a, a⟩

def get (p : PerKind α) : Kind → α
  | .cls => p.cls
  | .method => p.method
  | .field => p.field

def set (p : PerKind α) (k : Kind) (a : α) : PerKind α :=
  match k with
  | .cls => { p with cls := a }
  | .method => { p with method := a }
  | .field => { p with field := a }

theorem ext_get {p q : PerKind α} (same : ∀ k, p.get k = q.get k) : p = q := by
  obtain ⟨cls, method, field⟩ := p
  obtain rfl : cls = q.cls := same .cls
  obtain rfl : method = q.method := same .method
  obtain rfl : field = q.field := same .field
  rfl

@[simp] theorem get_const (a : α) (k : Kind) : (const a).get k = a := by cases k <;> rfl

@[simp] theorem get_set_self (p : PerKind α) (k : Kind) (a : α) : (p.set k a).get k = a := by
  cases k <;> rfl

theorem get_set_of_ne (p : PerKind α) {k l : Kind} (a : α) (h : l ≠ k) :
    (p.set k a).get l = p.get l := by
  cases k <;> cases l <;> simp_all [get, set]

theorem get_set (p : PerKind α) (k l : Kind) (a : α) :
    (p.set k a).get l = if l = k then a else p.get l := by
  split
  · next h => rw [h, get_set_self]
  · next h => exact get_set_of_ne p a h

end PerKind

end TransformRegistry
