import TransformRegistry.CodeUnit
import TransformRegistry.Proofs.Effects

/-!
# Plain code units

The plainest family of code units: what a unit is called, and marks that transformers may leave.
The plainest transformers leave their number there, and do nothing else.
-/

namespace TransformRegistry

structure PlainMember where
  name : String
  descriptor : String
  marks : List String := []
deriving DecidableEq, Repr

structure PlainClass where
  name : String
  fields : List PlainMember := []
  methods : List PlainMember := []
  marks : List String := []
deriving DecidableEq, Repr

abbrev PlainUnit : Kind → Type
  | .cls => PlainClass
  | .method => PlainMember
  | .field => PlainMember

instance : ClassShape PlainUnit where
  name := PlainClass.name
  fields := PlainClass.fields
  methods := PlainClass.methods
  setFields c fs := { c with fields := fs }
  setMethods c ms := { c with methods := ms }
  fieldName := PlainMember.name
  fieldDescriptor := PlainMember.descriptor
  methodName := PlainMember.name
  methodDescriptor := PlainMember.descriptor
  fields_setFields _ _ := rfl
  methods_setFields _ _ := rfl
  name_setFields _ _ := rfl
  setFields_fields _ := rfl
  methods_setMethods _ _ := rfl
  fields_setMethods _ _ := rfl
  name_setMethods _ _ := rfl
  setMethods_methods _ := rfl

def PlainUnit.mark (m : String) : (k : Kind) → PlainUnit k → PlainUnit k
  | .cls, c => { c with marks := c.marks ++ [m] }
  | .method, member => { member with marks := member.marks ++ [m] }
  | .field, member => { member with marks := member.marks ++ [m] }

/-- Transformers that always apply and leave their number as a mark. -/
def Roster.marking (targets : Handle Nat → SessionM Nat Unit (List Target)) :
    Roster Nat Unit Unit PlainUnit where
  transformer k i :=
    { label := return toString i
      targets := targets ⟨k, i⟩
      vote := fun _ => return .yes
      transform := fun unit _ => return .ok (PlainUnit.mark (toString i) k unit) }

variable {rule : StoreRule Nat} {targets : Handle Nat → SessionM Nat Unit (List Target)}

open SessionM

theorem Roster.marking_applies : (Roster.marking targets).AppliesUnder rule := fun _ _ =>
  ⟨obeys_pure _, fun _ => obeys_pure _, fun _ _ => obeys_pure _⟩

theorem Roster.marking_under (ht : ∀ h, (targets h).Obeys rule) :
    (Roster.marking targets).Under rule :=
  ⟨marking_applies, fun _ => obeys_pure _, ht⟩

end TransformRegistry
