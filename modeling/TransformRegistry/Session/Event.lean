import TransformRegistry.Session.Voting
import TransformRegistry.Target.Text

/-!
# Events

What a session reports of its work as it goes. An event has a level, a message that says what kind
of event it is, and named fields.
-/

namespace TransformRegistry

inductive Level where
  | trace
  | debug
  | info
  | warn
  | error
deriving DecidableEq, Repr

def Level.name : Level → String
  | .trace => "trace"
  | .debug => "debug"
  | .info => "info"
  | .warn => "warn"
  | .error => "error"

/-- What can be reported. A count tells how many; a label names a transformer. -/
inductive Event where
  | voteCast (target : Target) (transformer : String) (vote : Vote) (pass : Pass)
  | deferredTwice (target : Target) (transformer : String)
  | repeatIgnored (target : Target) (transformer : String)
  | registered (transformer : String) (kind : Kind) (targets : Nat)
  | storeSealed (targets : Nat)
  | serviceGathered (service : String) (transformers : Nat)
  | serviceSkipped (service error : String)
  | servicesGathered (services failed transformers : Nat)
  | classComplete (owner : ClassName)
deriving DecidableEq, Repr

namespace Event

def level : Event → Level
  | .voteCast .. => .trace
  | .deferredTwice .. => .warn
  | .repeatIgnored .. => .warn
  | .registered .. => .debug
  | .storeSealed _ => .debug
  | .serviceGathered .. => .debug
  | .serviceSkipped .. => .error
  | .servicesGathered .. => .info
  | .classComplete _ => .trace

def message : Event → String
  | .voteCast .. => "vote cast"
  | .deferredTwice .. => "voting policy violation"
  | .repeatIgnored .. => "ignoring repeated registration"
  | .registered .. => "registered transformer"
  | .storeSealed _ => "transform store sealed"
  | .serviceGathered .. => "gathered service"
  | .serviceSkipped .. => "transformation service skipped"
  | .servicesGathered .. => "transformation services gathered"
  | .classComplete _ => "class pipeline complete"

/-- A second defer breaks the voting policy and counts as a no. -/
def violationText (target : Target) (transformer : String) : String :=
  "transformer " ++ transformer ++ " deferred twice on " ++ target.text ++ "; resolved as no"

def fields : Event → List (String × String)
  | .voteCast target transformer vote pass =>
    [("unit", target.text), ("transformer", transformer), ("vote", vote.name), ("pass", pass.title)]
  | .deferredTwice target transformer => [("violation", violationText target transformer)]
  | .repeatIgnored target transformer => [("transformer", transformer), ("unit", target.text)]
  | .registered transformer kind targets =>
    [("transformer", transformer), ("kind", kind.name), ("targets", toString targets)]
  | .storeSealed targets => [("targets", toString targets)]
  | .serviceGathered service transformers =>
    [("service", service), ("transformers", toString transformers)]
  | .serviceSkipped service error => [("service", service), ("error", error)]
  | .servicesGathered services failed transformers =>
    [("services", toString services), ("failed", toString failed),
      ("transformers", toString transformers)]
  | .classComplete owner => [("class", owner.text)]

def toJson (e : Event) : Json :=
  .ofFields [("level", .ofText e.level.name), ("message", .ofText e.message),
    ("fields", .ofFields (e.fields.map fun (key, value) => (key, .ofText value)))]

end Event

end TransformRegistry
