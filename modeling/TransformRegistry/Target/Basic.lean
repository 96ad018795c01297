import TransformRegistry.ClassName
import TransformRegistry.Kind

/-!
# Targets

A target is what a transformer asks to be applied to: a class, or a method or field of a class by
name and descriptor.
-/

namespace TransformRegistry

inductive Target where
  | cls (owner : ClassName)
  | method (owner : ClassName) (name descriptor : String)
  | field (owner : ClassName) (name descriptor : String)
deriving DecidableEq, Repr, Inhabited

namespace Target

/-! ## Making targets -/

/-- The class of that name, in either spelling. -/
def ofClass (owner : String) : Target := .cls (.ofText owner)

/-- A method, its owner in either spelling. Name and descriptor are kept as they are. -/
def ofMethod (owner name descriptor : String) : Target := .method (.ofText owner) name descriptor

def ofField (owner name descriptor : String) : Target := .field (.ofText owner) name descriptor

/-! ## Parts of a target -/

def kind : Target → Kind
  | .cls _ => .cls
  | .method .. => .method
  | .field .. => .field

/-- The class itself, or the class that the member belongs to. -/
def owner : Target → ClassName
  | .cls owner => owner
  | .method owner _ _ => owner
  | .field owner _ _ => owner

def name? : Target → Option String
  | .cls _ => none
  | .method _ name _ => some name
  | .field _ name _ => some name

def descriptor? : Target → Option String
  | .cls _ => none
  | .method _ _ descriptor => some descriptor
  | .field _ _ descriptor => some descriptor

def enclosingClass (t : Target) : Target := .cls t.owner

@[simp] theorem kind_ofClass (o : String) : (ofClass o).kind = .cls := rfl

@[simp] theorem kind_ofMethod (o n d : String) : (ofMethod o n d).kind = .method := rfl

@[simp] theorem kind_ofField (o n d : String) : (ofField o n d).kind = .field := rfl

theorem ext_parts {a b : Target} (hk : a.kind = b.kind) (ho : a.owner = b.owner)
    (hn : a.name? = b.name?) (hd : a.descriptor? = b.descriptor?) :
    a = b := by
  cases a <;> cases b <;> simp_all [kind, owner, name?, descriptor?]

/-! ## Order -/

/-- By kind, then owner, then member name, then member descriptor. -/
instance : Ord Target :=
  ⟨compareLex (compareOn kind) <| compareLex (compareOn owner) <|
    compareLex (compareOn name?) (compareOn descriptor?)⟩

/-- Whether one target comes before another or is the same. -/
def le (a b : Target) : Bool := (compare a b).isLE

def sort (ts : List Target) : List Target := ts.mergeSort le

end Target

end TransformRegistry
