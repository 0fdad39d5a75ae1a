import RouteTemplate.Action
import RouteTemplate.Template.Walk

namespace RouteTemplate

inductive Event where
  | visit (visit : Visit)
  | incompleteAction (action : Action)
  | unregisteredAction (action : Action)
  | compiledRoute (pattern template : String)
  | compilingSet (routes : Nat)
  deriving DecidableEq, Repr

inductive Level where
  | trace
  | debug
  deriving DecidableEq, Repr

def Level.name : Level → String
  | trace => "TRACE"
  | debug => "DEBUG"

namespace Event

def level : Event → Level
  | visit _ => .trace
  | _ => .debug

def message : Event → String
  | visit _ => "visit"
  | incompleteAction _ => "incomplete action, skipping query parameters"
  | unregisteredAction _ => "no query parameters registered"
  | compiledRoute _ _ => "compiled route"
  | compilingSet _ => "compiling route set"

inductive Detail where
  | text (value : String)
  | count (value : Nat)
  deriving DecidableEq, Repr

def details : Event → List (String × Detail)
  | visit node => [("kind", .text node.kind.name), ("depth", .count node.depth)]
  | incompleteAction action => [("action", .text action.text)]
  | unregisteredAction action => [("action", .text action.text)]
  | compiledRoute pattern template => [("pattern", .text pattern), ("template", .text template)]
  | compilingSet routes => [("routes", .count routes)]

end Event

structure Logged (ε α : Type) where
  outcome : Except ε α
  events : List Event

namespace Logged

variable {ε α : Type}

def report (event : Event) : Logged ε Unit := ⟨.ok (), [event]⟩

def fail (error : ε) : Logged ε α := ⟨.error error, []⟩

/-- An error ends the computation; what was reported before it stays. -/
instance : Monad (Logged ε) where
  pure value := ⟨.ok value, []⟩
  bind first next :=
    match first.outcome with
    | .ok value =>
      let second := next value
      ⟨second.outcome, first.events ++ second.events⟩
    | .error error => ⟨.error error, first.events⟩

def mapError {δ : Type} (f : ε → δ) (logged : Logged ε α) : Logged δ α :=
  ⟨logged.outcome.mapError f, logged.events⟩

end Logged

end RouteTemplate
