import TransformRegistry.Gathering.Service

/-!
# Gathering

Gathering a service asks it for its transformers, asks each of those for its targets, and only then
registers them. A service that fails or crashes while it is asked contributes nothing and does not
keep the others from being gathered. A transformer that the store refuses ends the gathering, for
the store would not be what was asked for.
-/

namespace TransformRegistry

/-! ## Errors -/

inductive ServiceFault where
  | failed (reason : String)
  | crashed (message : String)
deriving DecidableEq, Repr

structure ServiceError where
  service : String
  fault : ServiceFault
deriving DecidableEq, Repr

def ServiceError.message (e : ServiceError) : String :=
  match e.fault with
  | .failed reason =>
    "service " ++ Text.quoted e.service ++ " failed to enumerate transformers: " ++ reason
  | .crashed message =>
    "service " ++ Text.quoted e.service ++ " panicked while enumerating transformers: " ++ message

def ServiceError.causes (e : ServiceError) : List String :=
  match e.fault with
  | .failed reason => [reason]
  | .crashed _ => []

/-- Why a service was not gathered: it was not to be had, or the store refused what it offered. -/
inductive GatherFailure where
  | unavailable (cause : ServiceError)
  | refused (contributor : String) (cause : RegistrationError)
deriving DecidableEq, Repr

namespace GatherFailure

/-- A service's own error speaks for itself. -/
def message : GatherFailure → String
  | .unavailable cause => cause.message
  | .refused contributor cause =>
    "service " ++ Text.quoted contributor ++ " contributed an invalid transformer: "
      ++ cause.message

def causes : GatherFailure → List String
  | .unavailable cause => cause.causes
  | .refused _ cause => [cause.message]

end GatherFailure

/-! ## One service -/

variable {I H E : Type} {U : Kind → Type} [DecidableEq I]

open SessionM

abbrev Declaration (I : Type) := Handle I × List Target

/-- Asks each transformer for its label, which must be there, and for its targets. -/
def declare (r : Roster I H E U) : List (Handle I) → SessionM I H (List (Declaration I))
  | [] => return []
  | h :: rest => do
    discard (r.label h)
    let targets ← r.targets h
    return (h, targets) :: (← declare r rest)

def Service.declarations (r : Roster I H E U) (s : Service I H) :
    SessionM I H (Except String (List (Declaration I))) := do
  match ← s.transformers with
  | .error reason => return .error reason
  | .ok handles => return .ok (← declare r handles)

/-- The declarations of a service. A crash on the way is the service's error. -/
def Service.contribution (r : Roster I H E U) (s : Service I H) :
    SessionM I H (Except ServiceError (List (Declaration I))) := do
  match ← isolate (s.declarations r) with
  | .error crash => return .error ⟨s.name, .crashed crash.text⟩
  | .ok (.error reason) => return .error ⟨s.name, .failed reason⟩
  | .ok (.ok declared) => return .ok declared

/-- Registers declarations in order, up to the first that is refused. -/
def registerAll (r : Roster I H E U) :
    List (Declaration I) → SessionM I H (Except RegistrationError Unit)
  | [] => return .ok ()
  | (h, targets) :: rest => do
    match ← registerFor r h targets with
    | .error e => return .error e
    | .ok _ => registerAll r rest

/-- Gathers one service. The answer is the number of its transformers. -/
def Service.gather (r : Roster I H E U) (s : Service I H) :
    SessionM I H (Except GatherFailure Nat) := do
  match ← s.contribution r with
  | .error e => return .error (.unavailable e)
  | .ok declared =>
    match ← registerAll r declared with
    | .error e => return .error (.refused s.name e)
    | .ok () =>
      report (.serviceGathered s.name declared.length)
      return .ok declared.length

/-! ## All services -/

structure Harvest where
  gathered : List (String × Nat) := []
  failures : List ServiceError := []
deriving DecidableEq, Repr

namespace Harvest

def isComplete (g : Harvest) : Bool := g.failures.isEmpty

def total (g : Harvest) : Nat := (g.gathered.map (·.2)).foldr (· + ·) 0

end Harvest

def gatherEach (r : Roster I H E U) (g : Harvest) :
    List (Service I H) → SessionM I H (Except GatherFailure Harvest)
  | [] => return .ok g
  | s :: rest => do
    match ← s.gather r with
    | .ok count => gatherEach r { g with gathered := g.gathered ++ [(s.name, count)] } rest
    | .error (.unavailable e) =>
      report (.serviceSkipped e.service e.message)
      gatherEach r { g with failures := g.failures ++ [e] } rest
    | .error e => return .error e

/-- Gathers all services, then seals the store if it is so set. -/
def Services.gather (r : Roster I H E U) (ss : Services I H) :
    SessionM I H (Except GatherFailure Harvest) := do
  match ← gatherEach r {} ss.list with
  | .error e => return .error e
  | .ok g =>
    if (← getStore).settings.sealAfterGather then sealStore
    report (.servicesGathered g.gathered.length g.failures.length g.total)
    return .ok g

end TransformRegistry
