import TransformRegistry.Descriptor.Cursor
import TransformRegistry.Descriptor.Malformed
import TransformRegistry.Text.Segments

/-!
# Reading one field type

A field type is a base tag, an object type `L<class name>;`, or an array of either. Reading one
moves the cursor past it and looks no further than its last byte.
-/

namespace TransformRegistry.Descriptor

def isBaseTag (b : UInt8) : Bool :=
  b ∈ ['B', 'C', 'D', 'F', 'I', 'J', 'S', 'Z'].map Char.toUInt8

/-- The bytes that no class name inside a descriptor holds, beside the `;` that ends it. -/
def isReservedInName (b : UInt8) : Bool :=
  b ∈ ['.', '[', '(', ')'].map Char.toUInt8

/-! ## Class names -/

/-- The first fault of a class name, with its offset from the start of the name. -/
def nameFault? (name : List UInt8) : Option (Nat × Fault) :=
  if name.isEmpty then some (0, .emptyClassName)
  else match name.findIdx? isReservedInName with
    | some i => some (i, .illegalCharacter)
    | none =>
      if Text.hasEmptySegment (· == '/'.toUInt8) name then some (0, .emptyPackageSegment)
      else none

/-- Reads an object type, with the cursor at its `L`. -/
def readObjectType (c : Cursor) : Except Malformed Cursor :=
  let body := c.skip 1
  let name := body.rest.takeWhile (· != ';'.toUInt8)
  if name.length = body.rest.length then .error ⟨c.pos, .unterminatedObjectType⟩
  else match nameFault? name with
    | some (i, fault) => .error ⟨body.pos + i, fault⟩
    | none => .ok (body.skip (name.length + 1))

/-! ## Types -/

def readElementType (c : Cursor) : Except Malformed Cursor :=
  match c.rest with
  | [] => .error ⟨c.pos, .missingFieldType⟩
  | tag :: _ =>
    if isBaseTag tag then .ok (c.skip 1)
    else if tag = 'L'.toUInt8 then readObjectType c
    else if tag = 'V'.toUInt8 then .error ⟨c.pos, .misplacedVoid⟩
    else .error ⟨c.pos, .unknownTag⟩

/-- The number of array dimensions that start here. -/
def dimensions (bytes : List UInt8) : Nat := (bytes.takeWhile (· == '['.toUInt8)).length

/-- Reads a field type. Too many dimensions are a fault before what they enclose is looked at. -/
def readFieldType (c : Cursor) : Except Malformed Cursor :=
  if dimensionLimit < dimensions c.rest then .error ⟨c.pos, .tooManyDimensions⟩
  else readElementType (c.skip (dimensions c.rest))

/-! ## Progress -/

theorem readObjectType_shortens {c next : Cursor} (hc : c.rest ≠ [])
    (h : readObjectType c = .ok next) : next.rest.length < c.rest.length := by
  unfold readObjectType at h
  dsimp only at h
  have := List.length_pos_iff.2 hc
  split at h
  · simp at h
  · split at h
    · simp at h
    · cases h
      simp only [Cursor.rest_skip, List.length_drop]
      omega

theorem readElementType_shortens {c next : Cursor} (h : readElementType c = .ok next) :
    next.rest.length < c.rest.length := by
  unfold readElementType at h
  split at h
  · simp at h
  · next tag rest hc =>
    split at h
    · cases h
      simp [hc]
    · split at h
      · exact readObjectType_shortens (by simp [hc]) h
      · split at h <;> simp at h

theorem readFieldType_shortens {c next : Cursor} (h : readFieldType c = .ok next) :
    next.rest.length < c.rest.length := by
  unfold readFieldType at h
  split at h
  · simp at h
  · have := readElementType_shortens h
    simp only [Cursor.rest_skip, List.length_drop] at this
    omega

end TransformRegistry.Descriptor
