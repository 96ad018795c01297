import TransformRegistry.Audit.Trail
import TransformRegistry.Session.Event
import TransformRegistry.Store.Basic

/-!
# Sessions

A session is everything that a call can change: the store, the audit trails, the events reported so
far, and the state of the host, which belongs to the transformers and services and of which the
registry knows nothing. A call that crashes leaves the session as it was at that moment.
-/

namespace TransformRegistry

/-- A transformer or service broke off without an answer, with or without a message. -/
structure Crash where
  message? : Option String
deriving DecidableEq, Repr, Inhabited

/-- The message, or a stand-in where there is none. -/
def Crash.text (c : Crash) : String := c.message?.getD "non-string panic payload"

/-- A trail for every name. A name not yet used has an empty trail. -/
abbrev Trails := String → Trail

namespace Trails

def empty : Trails := fun _ => .empty

def set (trails : Trails) (name : String) (trail : Trail) : Trails :=
  fun other => if other = name then trail else trails other

@[simp] theorem set_self (trails : Trails) (name : String) (trail : Trail) :
    trails.set name trail name = trail := if_pos rfl

theorem set_of_ne (trails : Trails) {name other : String} (trail : Trail) (h : other ≠ name) :
    trails.set name trail other = trails other := if_neg h

theorem set_same (trails : Trails) (name : String) : trails.set name (trails name) = trails := by
  funext other
  by_cases h : other = name
  · rw [h, set_self]
  · rw [set_of_ne _ _ h]

theorem set_set (trails : Trails) (name : String) (trail next : Trail) :
    (trails.set name trail).set name next = trails.set name next := by
  funext other
  by_cases h : other = name
  · rw [h, set_self, set_self]
  · rw [set_of_ne _ _ h, set_of_ne _ _ h, set_of_ne _ _ h]

end Trails

/-- The instances are of type `I`; the state of the host is of type `H`. -/
structure Session (I H : Type) where
  store : Store I
  trails : Trails := .empty
  events : List Event := []
  host : H

/-- A call within a session. It ends with a value or with a crash. -/
abbrev SessionM (I H : Type) := EStateM Crash (Session I H)

namespace SessionM

variable {I H α : Type}

/-- Runs a call and answers with its crash, if it crashes. What it did up to there stays done. -/
def isolate (x : SessionM I H α) : SessionM I H (Except Crash α) := fun s =>
  match x s with
  | .ok a s => .ok (.ok a) s
  | .error crash s => .ok (.error crash) s

def crash (c : Crash) : SessionM I H α := throw c

def getStore : SessionM I H (Store I) := return (← get).store

def setStore (store : Store I) : SessionM I H Unit := modify fun s => { s with store }

def report (e : Event) : SessionM I H Unit := modify fun s => { s with events := s.events ++ [e] }

/-- Writes the history of an attempt into the trail of that name, if one is kept. -/
def record (trail? : Option String) (t : Target) (history : List Entry) : SessionM I H Unit :=
  match trail? with
  | none => return
  | some name => modify fun s =>
    { s with trails := s.trails.set name ((s.trails name).record t history) }

/-! ## What a call does, step by step -/

@[simp] theorem pure_apply (a : α) (s : Session I H) : (pure a : SessionM I H α) s = .ok a s := rfl

/-- A crash keeps what comes after from being done. -/
@[simp] theorem bind_apply {β : Type} (x : SessionM I H α) (f : α → SessionM I H β)
    (s : Session I H) :
    (x >>= f) s = match x s with
      | .ok a s => f a s
      | .error crash s => .error crash s := by
  simp only [bind, EStateM.bind]
  cases x s <;> rfl

@[simp] theorem map_apply {β : Type} (f : α → β) (x : SessionM I H α) (s : Session I H) :
    (f <$> x) s = match x s with
      | .ok a s => .ok (f a) s
      | .error crash s => .error crash s := by
  simp only [Functor.map, EStateM.map]
  cases x s <;> rfl

@[simp] theorem discard_apply (x : SessionM I H α) (s : Session I H) :
    (discard x : SessionM I H PUnit) s = match x s with
      | .ok _ s => .ok () s
      | .error crash s => .error crash s :=
  map_apply (fun _ => ()) x s

@[simp] theorem crash_apply (c : Crash) (s : Session I H) :
    (crash c : SessionM I H α) s = .error c s := rfl

@[simp] theorem getStore_apply (s : Session I H) : getStore s = .ok s.store s := rfl

@[simp] theorem setStore_apply (store : Store I) (s : Session I H) :
    setStore store s = .ok () { s with store } := rfl

@[simp] theorem report_apply (e : Event) (s : Session I H) :
    report e s = .ok () { s with events := s.events ++ [e] } := rfl

@[simp] theorem record_none_apply (t : Target) (history : List Entry) (s : Session I H) :
    record none t history s = .ok () s := rfl

@[simp] theorem record_some_apply (name : String) (t : Target) (history : List Entry)
    (s : Session I H) :
    record (some name) t history s =
      .ok () { s with trails := s.trails.set name ((s.trails name).record t history) } := rfl

theorem isolate_of_ok {x : SessionM I H α} {a : α} {s t : Session I H} (h : x s = .ok a t) :
    isolate x s = .ok (.ok a) t := by
  simp [isolate, h]

end SessionM

end TransformRegistry
