import TransformRegistry.Descriptor.Check

/-!
# Reading descriptors by place

The bytes of a descriptor may be kept as they are while a place moves on in them. A reader of this
sort says where it ends. It has no answer where it would take a slice that is out of range.
-/

namespace TransformRegistry.Descriptor

/-- The bytes from one place up to another, if both places are in range. -/
def extract? (bytes : List UInt8) (start stop : Nat) : Option (List UInt8) :=
  if start ≤ stop ∧ stop ≤ bytes.length then some (bytes.extract start stop) else none

/-- Where an object type ends, with its `L` at the place. -/
def objectTypeEnd? (bytes : List UInt8) (pos : Nat) : Option (Except Malformed Nat) := do
  let body ← extract? bytes (pos + 1) bytes.length
  match body.idxOf? ';'.toUInt8 with
  | none => return .error ⟨pos, .unterminatedObjectType⟩
  | some length =>
    let name ← extract? bytes (pos + 1) (pos + 1 + length)
    match nameFault? name with
    | some (i, fault) => return .error ⟨pos + 1 + i, fault⟩
    | none => return .ok (pos + 1 + length + 1)

def elementTypeEnd? (bytes : List UInt8) (pos : Nat) : Option (Except Malformed Nat) :=
  match bytes[pos]? with
  | none => some (.error ⟨pos, .missingFieldType⟩)
  | some tag =>
    if isBaseTag tag then some (.ok (pos + 1))
    else if tag = 'L'.toUInt8 then objectTypeEnd? bytes pos
    else if tag = 'V'.toUInt8 then some (.error ⟨pos, .misplacedVoid⟩)
    else some (.error ⟨pos, .unknownTag⟩)

/-- The first place from here on that holds no `[`. -/
def dimensionsEnd (bytes : List UInt8) (pos : Nat) : Nat :=
  if h : bytes[pos]? = some '['.toUInt8 then dimensionsEnd bytes (pos + 1) else pos
termination_by bytes.length - pos
decreasing_by
  obtain ⟨within, -⟩ := List.getElem?_eq_some_iff.1 h
  omega

/-- Where the field type ends that starts at the place. -/
def fieldTypeEnd? (bytes : List UInt8) (start : Nat) : Option (Except Malformed Nat) :=
  if dimensionLimit < dimensionsEnd bytes start - start then
    some (.error ⟨start, .tooManyDimensions⟩)
  else elementTypeEnd? bytes (dimensionsEnd bytes start)

/-- Goes round until a parenthesis ends the parameters or a fault is met, but no more often than it
may. -/
def parametersEnd? (bytes : List UInt8) : Nat → Nat → Option (Except Malformed Nat)
  | 0, _ => none
  | rounds + 1, pos => match bytes[pos]? with
    | none => some (.error ⟨pos, .unterminatedParameters⟩)
    | some b =>
      if b = ')'.toUInt8 then some (.ok (pos + 1))
      else match fieldTypeEnd? bytes pos with
        | none => none
        | some (.error e) => some (.error e)
        | some (.ok next) => parametersEnd? bytes rounds next

def returnTypeEnd? (bytes : List UInt8) (pos : Nat) : Option (Except Malformed Nat) :=
  match bytes[pos]? with
  | none => some (.error ⟨pos, .missingReturnType⟩)
  | some b => if b = 'V'.toUInt8 then some (.ok (pos + 1)) else fieldTypeEnd? bytes pos

/-! ## Whole descriptors -/

def expectEndAt (bytes : List UInt8) (pos : Nat) (fault : Fault) : Except Malformed Unit :=
  if pos = bytes.length then .ok () else .error ⟨pos, fault⟩

def fieldVerdict? (bytes : List UInt8) : Option (Except Malformed Unit) := do
  match ← fieldTypeEnd? bytes 0 with
  | .error e => return .error e
  | .ok stop => return expectEndAt bytes stop .trailingAfterFieldType

def methodVerdict? (bytes : List UInt8) : Option (Except Malformed Unit) := do
  if bytes.head? ≠ some '('.toUInt8 then return .error ⟨0, .missingOpeningParenthesis⟩
  else match ← parametersEnd? bytes bytes.length 1 with
    | .error e => return .error e
    | .ok pos => match ← returnTypeEnd? bytes pos with
      | .error e => return .error e
      | .ok stop => return expectEndAt bytes stop .trailingAfterReturnType

end TransformRegistry.Descriptor
