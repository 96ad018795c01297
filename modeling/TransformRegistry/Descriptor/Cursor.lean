/-!
# A place in the bytes of a descriptor
-/

namespace TransformRegistry.Descriptor

/-- What is left to read, and the offset at which it starts. -/
structure Cursor where
  pos : Nat
  rest : List UInt8
deriving DecidableEq, Repr

namespace Cursor

def start (bytes : List UInt8) : Cursor := ⟨0, bytes⟩

def skip (c : Cursor) (n : Nat) : Cursor := ⟨c.pos + n, c.rest.drop n⟩

/-- The same bytes, as they stand `n` bytes further on. -/
def shift (c : Cursor) (n : Nat) : Cursor := ⟨c.pos + n, c.rest⟩

@[simp] theorem pos_skip (c : Cursor) (n : Nat) : (c.skip n).pos = c.pos + n := rfl

@[simp] theorem rest_skip (c : Cursor) (n : Nat) : (c.skip n).rest = c.rest.drop n := rfl

@[simp] theorem pos_shift (c : Cursor) (n : Nat) : (c.shift n).pos = c.pos + n := rfl

@[simp] theorem rest_shift (c : Cursor) (n : Nat) : (c.shift n).rest = c.rest := rfl

theorem skip_skip (c : Cursor) (m n : Nat) : (c.skip m).skip n = c.skip (m + n) := by
  simp [skip, Nat.add_assoc]

end Cursor

end TransformRegistry.Descriptor
