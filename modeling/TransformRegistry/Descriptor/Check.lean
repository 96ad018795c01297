import TransformRegistry.Descriptor.FieldType
import TransformRegistry.Text.Utf8

/-!
# Checking whole descriptors

A field descriptor is one field type. A method descriptor is a parenthesised list of field types
followed by a return type, which may also be `V`.
-/

namespace TransformRegistry.Descriptor

def Cursor.expectEnd (c : Cursor) (fault : Fault) : Except Malformed Unit :=
  if c.rest.isEmpty then .ok () else .error ⟨c.pos, fault⟩

def checkFieldBytes (bytes : List UInt8) : Except Malformed Unit :=
  match readFieldType (.start bytes) with
  | .error e => .error e
  | .ok c => c.expectEnd .trailingAfterFieldType

/-- Reads parameters up to and past the closing parenthesis. -/
def readParameters (c : Cursor) : Except Malformed Cursor :=
  match c.rest with
  | [] => .error ⟨c.pos, .unterminatedParameters⟩
  | b :: _ =>
    if b = ')'.toUInt8 then .ok (c.skip 1)
    else match _h : readFieldType c with
      | .error e => .error e
      | .ok next => readParameters next
termination_by c.rest.length
decreasing_by exact readFieldType_shortens ‹_›

def readReturnType (c : Cursor) : Except Malformed Cursor :=
  match c.rest with
  | [] => .error ⟨c.pos, .missingReturnType⟩
  | b :: _ => if b = 'V'.toUInt8 then .ok (c.skip 1) else readFieldType c

def checkMethodBytes (bytes : List UInt8) : Except Malformed Unit :=
  if bytes.head? ≠ some '('.toUInt8 then .error ⟨0, .missingOpeningParenthesis⟩
  else match readParameters ((Cursor.start bytes).skip 1) with
    | .error e => .error e
    | .ok parameters => match readReturnType parameters with
      | .error e => .error e
      | .ok c => c.expectEnd .trailingAfterReturnType

def checkField (text : String) : Except Malformed Unit := checkFieldBytes (Text.utf8 text)

def checkMethod (text : String) : Except Malformed Unit := checkMethodBytes (Text.utf8 text)

end TransformRegistry.Descriptor
