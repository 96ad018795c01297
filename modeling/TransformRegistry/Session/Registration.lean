import TransformRegistry.Session.Transformer

/-!
# Registration

A transformer is taken into the store for the targets it declares, or refused with its label. A
sealed store refuses before it asks for targets, and again afterwards, since the answer may itself
have sealed the store.
-/

namespace TransformRegistry

variable {I H E : Type} {U : Kind → Type} [DecidableEq I]

open SessionM

/-- Seals the store. A store that is sealed already stays as it is, and nothing is reported. -/
def sealStore : SessionM I H Unit := do
  let store ← getStore
  if store.isSealed then return
  setStore store.close
  report (.storeSealed store.snapshot.targets.length)

omit [DecidableEq I] in
theorem sealStore_apply (s : Session I H) :
    ∃ events, sealStore s = .ok () { s with store := s.store.close, events } := by
  unfold sealStore
  by_cases closed : s.store.isSealed
  · exact ⟨s.events, by simp [closed, Store.close_of_sealed closed]⟩
  · exact ⟨_, by simp [closed]; rfl⟩

/-- Puts another store in place of the one that was seen, unless that is no longer the store. -/
def swap (seen next : Store I) : SessionM I H Bool := do
  if (← getStore) = seen then
    setStore next
    return true
  return false

/-- Reports that the transformer stood under the target already, with the label that it gives. -/
def reportRepeat (r : Roster I H E U) (h : Handle I) (t : Target) : SessionM I H Unit := do
  report (.repeatIgnored t (← r.label h))

def reportRepeats (r : Roster I H E U) (h : Handle I) : List Target → SessionM I H Unit
  | [] => return
  | t :: rest => do
    reportRepeat r h t
    reportRepeats r h rest

/-- The targets under which an instance stood already. -/
def repeats (done : List (Target × Placement)) : List Target :=
  (done.filter (·.2 = .alreadyThere)).map (·.1)

/-- Has the store take a declaration in. For each repeat the transformer is asked for its label
again. If the store is another one after that, all is done once more. -/
def takeIn (r : Roster I H E U) (h : Handle I) (label : String) (declared : List Target) :
    Nat → SessionM I H (Except RegistrationError (List Placement))
  | 0 => crash ⟨none⟩
  | roundsLeft + 1 => do
    let store ← getStore
    match store.accept h declared with
    | .error (.alreadyRegistered t) => return .error ⟨← r.label h, .alreadyRegistered t⟩
    | .error refusal => return .error ⟨label, refusal⟩
    | .ok (done, next) =>
      reportRepeats r h (repeats done)
      if ← swap store next then
        report (.registered label h.kind done.length)
        return .ok (done.map (·.2))
      takeIn r h label declared roundsLeft

/-- More rounds than can ever be gone through. -/
def rounds : Nat := 0x10000000000000000

/-- Registers a transformer for targets that it has declared before. -/
def registerFor (r : Roster I H E U) (h : Handle I) (declared : List Target) :
    SessionM I H (Except RegistrationError (List Placement)) := do
  let label ← r.label h
  takeIn r h label declared rounds

/-- Registers a transformer for the targets it declares. -/
def register (r : Roster I H E U) (h : Handle I) :
    SessionM I H (Except RegistrationError (List Placement)) := do
  if (← getStore).isSealed then return .error ⟨← r.label h, .storeSealed⟩
  let declared ← r.targets h
  registerFor r h declared

/-- Registers an instance in an index of its own, outside any store. The label is asked for only
when there is something to say of it. -/
def registerIn (r : Roster I H E U) (ix : TargetIndex I) (policy : RepeatPolicy) (t : Target)
    (i : I) : SessionM I H (Except RegistrationError (Placement × TargetIndex I)) := do
  match ix.insert policy t i with
  | .error refusal => return .error ⟨← r.label ⟨ix.kind, i⟩, refusal⟩
  | .ok (.appended, next) => return .ok (.appended, next)
  | .ok (.alreadyThere, next) =>
    reportRepeat r ⟨ix.kind, i⟩ t
    return .ok (.alreadyThere, next)

end TransformRegistry
