import TransformRegistry.Kind

/-!
# Code units

The registry is made for a family of unit types, one for each kind, and does not look inside a unit.
To load a class it must find the members of the class, and put others in their place.
-/

namespace TransformRegistry

structure CodeUnit (U : Kind → Type) where
  kind : Kind
  unit : U kind

namespace CodeUnit

variable {U : Kind → Type}

def as? (u : CodeUnit U) (k : Kind) : Option (U k) :=
  if h : u.kind = k then some (h ▸ u.unit) else none

/-- The kind, with the unit as `render` writes it. -/
def record (render : (k : Kind) → U k → String) (u : CodeUnit U) : String :=
  u.kind.title ++ "(" ++ render u.kind u.unit ++ ")"

@[simp] theorem as?_self (k : Kind) (u : U k) : (CodeUnit.mk k u).as? k = some u := by simp [as?]

theorem as?_of_ne (u : CodeUnit U) {k : Kind} (h : u.kind ≠ k) : u.as? k = none := by
  simp [as?, h]

end CodeUnit

/-- How to find and replace the members of a class, and what a member is called. What is put in
place is found there, and the name and the members of the other kind stay as they are. -/
class ClassShape (U : Kind → Type) where
  name : U .cls → String
  fields : U .cls → List (U .field)
  methods : U .cls → List (U .method)
  setFields : U .cls → List (U .field) → U .cls
  setMethods : U .cls → List (U .method) → U .cls
  fieldName : U .field → String
  fieldDescriptor : U .field → String
  methodName : U .method → String
  methodDescriptor : U .method → String
  fields_setFields : ∀ c fs, fields (setFields c fs) = fs
  methods_setFields : ∀ c fs, methods (setFields c fs) = methods c
  name_setFields : ∀ c fs, name (setFields c fs) = name c
  setFields_fields : ∀ c, setFields c (fields c) = c
  methods_setMethods : ∀ c ms, methods (setMethods c ms) = ms
  fields_setMethods : ∀ c ms, fields (setMethods c ms) = fields c
  name_setMethods : ∀ c ms, name (setMethods c ms) = name c
  setMethods_methods : ∀ c, setMethods c (methods c) = c

end TransformRegistry
