import TransformRegistry.Target.Text

/-!
# What comes of a registration

A registration is refused for a reason, or puts an instance in place for each of its targets.
-/

namespace TransformRegistry

inductive Refusal where
  | nothingDeclared
  | wrongKind (expected : Kind) (target : Target)
  | alreadyRegistered (target : Target)
  | storeSealed
deriving DecidableEq, Repr

/-- A refusal, with the label of the transformer it concerns. -/
structure RegistrationError where
  transformer : String
  refusal : Refusal
deriving DecidableEq, Repr

def RegistrationError.message (e : RegistrationError) : String :=
  match e.refusal with
  | .nothingDeclared => "transformer " ++ e.transformer ++ " declares no targets"
  | .wrongKind expected target =>
    expected.name ++ " transformer " ++ e.transformer ++ " declares " ++ target.kind.name
      ++ " target " ++ target.text
  | .alreadyRegistered target =>
    "transformer " ++ e.transformer ++ " is already registered for " ++ target.text
  | .storeSealed => "store is sealed; cannot register " ++ e.transformer

inductive Placement where
  | appended
  | alreadyThere
deriving DecidableEq, Repr

def Placement.name : Placement → String
  | .appended => "appended"
  | .alreadyThere => "kept_existing"

end TransformRegistry
