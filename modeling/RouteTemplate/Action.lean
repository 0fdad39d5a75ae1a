/-!
Actions, written `controller#action`. The controller ends at the first `#`, so what is read back
has none in its controller, but an action that was not read from a text may hold any two strings.
-/

namespace RouteTemplate

structure Action where
  controller : String
  name : String
  deriving DecidableEq, Repr, Ord

inductive ActionFault where
  | noSeparator (text : String)
  | emptyHalf (text : String)
  deriving DecidableEq, Repr

def ActionFault.message : ActionFault → String
  | .noSeparator text => "expected `controller#action`, found `" ++ text ++ "`"
  | .emptyHalf text => "empty controller or action in `" ++ text ++ "`"

namespace Action

def text (action : Action) : String := action.controller ++ "#" ++ action.name

def isComplete (action : Action) : Bool := action.controller != "" && action.name != ""

def parse (text : String) : Except ActionFault Action :=
  match text.toList.span (· ≠ '#') with
  | (_, []) => .error (.noSeparator text)
  | (controller, _ :: name) =>
    let action : Action := ⟨String.ofList controller, String.ofList name⟩
    if action.isComplete then .ok action else .error (.emptyHalf text)

end Action

end RouteTemplate
