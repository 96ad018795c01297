import TransformRegistry.Store.Snapshot

/-!
# Stores

A store has settings, fixed when it is made, and a current snapshot. A registration is taken in
whole or refused whole. Once a store is sealed it takes nothing in.
-/

namespace TransformRegistry

structure Store (I : Type) where
  settings : Settings
  snapshot : Snapshot I
  /-- How many snapshots there were before this one. Two of them may hold the same. -/
  edition : Nat := 0
deriving DecidableEq

namespace Store

variable {I : Type}

def isSealed (s : Store I) : Bool := s.snapshot.isSealed

def publish (s : Store I) (next : Snapshot I) : Store I :=
  { s with snapshot := next, edition := s.edition + 1 }

@[simp] theorem settings_publish (s : Store I) (next : Snapshot I) :
    (s.publish next).settings = s.settings := rfl

@[simp] theorem snapshot_publish (s : Store I) (next : Snapshot I) :
    (s.publish next).snapshot = next := rfl

@[simp] theorem isSealed_publish (s : Store I) (next : Snapshot I) :
    (s.publish next).isSealed = next.isSealed := rfl

def close (s : Store I) : Store I := if s.isSealed then s else s.publish s.snapshot.close

theorem close_of_sealed {s : Store I} (closed : s.isSealed = true) : s.close = s := if_pos closed

theorem close_of_unsealed {s : Store I} (unsealed : s.isSealed = false) :
    s.close = s.publish s.snapshot.close := by
  rw [close, unsealed]
  rfl

@[simp] theorem isSealed_close (s : Store I) : s.close.isSealed = true := by
  cases closed : s.isSealed with
  | true => rw [close_of_sealed closed, closed]
  | false => rw [close_of_unsealed closed]; rfl

@[simp] theorem close_close (s : Store I) : s.close.close = s.close :=
  close_of_sealed s.isSealed_close

@[simp] theorem settings_close (s : Store I) : s.close.settings = s.settings := by
  unfold close
  split <;> rfl

@[simp] theorem snapshot_close (s : Store I) : s.close.snapshot = s.snapshot.close := by
  cases closed : s.isSealed with
  | true => rw [close_of_sealed closed, Snapshot.close_of_sealed closed]
  | false => rw [close_of_unsealed closed]; rfl

variable [DecidableEq I]

def empty (settings : Settings := {}) : Store I := { settings, snapshot := .empty }

instance : Inhabited (Store I) := ⟨empty⟩

/-- Takes a transformer in for the targets it declares, repeats dropped. A declaration is looked at
before the seal, and the seal before anything registered earlier. -/
def accept (s : Store I) (h : Handle I) (declared : List Target) :
    Except Refusal (List (Target × Placement) × Store I) :=
  let targets := declared.eraseDups
  if targets.isEmpty then .error .nothingDeclared
  else match targets.find? (·.kind != h.kind) with
    | some t => .error (.wrongKind h.kind t)
    | none =>
      if s.isSealed then .error .storeSealed
      else match s.snapshot.insert s.settings.repeats h targets with
        | .error e => .error e
        | .ok (done, next) => .ok (targets.zip done, s.publish next)

end Store

end TransformRegistry
