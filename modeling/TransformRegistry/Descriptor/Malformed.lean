/-!
# What can be wrong with a descriptor

A refused descriptor names the fault and the byte at which it lies.
-/

namespace TransformRegistry.Descriptor

def dimensionLimit : Nat := 255

inductive Fault where
  | tooManyDimensions
  | missingFieldType
  | unknownTag
  | misplacedVoid
  | unterminatedObjectType
  | emptyClassName
  | illegalCharacter
  | emptyPackageSegment
  | trailingAfterFieldType
  | missingOpeningParenthesis
  | unterminatedParameters
  | missingReturnType
  | trailingAfterReturnType
deriving DecidableEq, Repr

def Fault.reason : Fault → String
  | .tooManyDimensions => "too many array dimensions"
  | .missingFieldType => "missing field type"
  | .unknownTag => "unknown type tag"
  | .misplacedVoid => "void is only valid as a method return type"
  | .unterminatedObjectType => "unterminated object type"
  | .emptyClassName => "empty class name"
  | .illegalCharacter => "illegal character in class name"
  | .emptyPackageSegment => "empty package segment in class name"
  | .trailingAfterFieldType => "trailing characters after field type"
  | .missingOpeningParenthesis => "method descriptor must start with '('"
  | .unterminatedParameters => "unterminated parameter list"
  | .missingReturnType => "missing return type"
  | .trailingAfterReturnType => "trailing characters after return type"

/-- A fault and the offset, in bytes, of the place it names. -/
structure Malformed where
  position : Nat
  fault : Fault
deriving DecidableEq, Repr

def Malformed.message (m : Malformed) : String :=
  m.fault.reason ++ " at byte " ++ toString m.position

end TransformRegistry.Descriptor
