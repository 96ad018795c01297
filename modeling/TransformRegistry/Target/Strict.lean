import TransformRegistry.Descriptor.Check
import TransformRegistry.Target.Basic
import TransformRegistry.Text.Quoted

/-!
# Targets that are well formed

Any texts make a target. A strict maker looks first whether they could name a class or a member:
the owner, then the name, then the descriptor.
-/

namespace TransformRegistry

/-- What is wrong with an owner that is not empty. -/
inductive OwnerFault where
  | descriptorCharacter
  | emptySegment
deriving DecidableEq, Repr

def OwnerFault.reason : OwnerFault → String
  | .descriptorCharacter => "owner contains a descriptor character"
  | .emptySegment => "owner contains an empty package segment"

/-- Why texts make no well-formed target. They are kept as they were given. -/
inductive InvalidTarget where
  | noOwner
  | badOwner (owner : String) (fault : OwnerFault)
  | noMemberName (kind : Kind) (owner : String)
  | badDescriptor (kind : Kind) (descriptor : String) (cause : Descriptor.Malformed)
deriving DecidableEq, Repr

namespace InvalidTarget

def message : InvalidTarget → String
  | .noOwner => "empty owner name"
  | .badOwner owner fault =>
    "malformed owner name " ++ Text.quoted owner ++ ": " ++ fault.reason
  | .noMemberName kind owner => "empty " ++ kind.name ++ " name on " ++ owner
  | .badDescriptor kind descriptor cause =>
    "malformed " ++ kind.name ++ " descriptor " ++ Text.quoted descriptor ++ ": " ++ cause.message

def causes : InvalidTarget → List String
  | .badDescriptor _ _ cause => [cause.message]
  | _ => []

end InvalidTarget

namespace Target

/-! ## The checks -/

/-- The characters of a descriptor that no class name may hold. -/
def isDescriptorCharacter (c : Char) : Bool := c ∈ [';', '[', '(', ')']

def isPackageSeparator (c : Char) : Bool := c ∈ ['.', '/']

/-- Looks at the characters before the segments. -/
def checkOwner (owner : String) : Except InvalidTarget Unit :=
  if owner.toList.isEmpty then .error .noOwner
  else if owner.toList.any isDescriptorCharacter then
    .error (.badOwner owner .descriptorCharacter)
  else if Text.hasEmptySegment isPackageSeparator owner.toList then
    .error (.badOwner owner .emptySegment)
  else .ok ()

def checkDescriptor : Kind → String → Except Descriptor.Malformed Unit
  | .method => Descriptor.checkMethod
  | _ => Descriptor.checkField

/-- Looks at the owner before the name, and at the descriptor last. -/
def checkMember (kind : Kind) (owner name descriptor : String) : Except InvalidTarget Unit :=
  match checkOwner owner with
  | .error e => .error e
  | .ok () =>
    if name.toList.isEmpty then .error (.noMemberName kind owner)
    else match checkDescriptor kind descriptor with
      | .error cause => .error (.badDescriptor kind descriptor cause)
      | .ok () => .ok ()

/-! ## Strict makers -/

def strictClass (owner : String) : Except InvalidTarget Target :=
  (checkOwner owner).map fun () => ofClass owner

def strictMethod (owner name descriptor : String) : Except InvalidTarget Target :=
  (checkMember .method owner name descriptor).map fun () => ofMethod owner name descriptor

def strictField (owner name descriptor : String) : Except InvalidTarget Target :=
  (checkMember .field owner name descriptor).map fun () => ofField owner name descriptor

end Target

end TransformRegistry
