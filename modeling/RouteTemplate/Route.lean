import RouteTemplate.Pattern.Json
import RouteTemplate.Template.Compiler

namespace RouteTemplate

structure Defaults where
  controller : Option String := none
  action : Option String := none
  deriving DecidableEq, Repr, Inhabited

def Defaults.target? (defaults : Defaults) : Option Action := do
  let action : Action := ⟨← defaults.controller, ← defaults.action⟩
  guard action.isComplete
  return action

structure Route where
  name : Option String
  path : Pattern
  defaults : Defaults
  deriving DecidableEq, Repr

namespace Route

def target? (route : Route) : Option Action := route.defaults.target?

def compile (route : Route) (options : Options) (source : Option ParamSource) : CompileM Template :=
  (Compiler.mk options source route.target?).compile route.path

end Route

open Json (Value Draft Depth RecordField ReadError)

def optionalMember (key : String) : Option String → List (String × Value)
  | none => []
  | some value => [(key, .text value)]

namespace Defaults

def toJson (defaults : Defaults) : Value :=
  .object (optionalMember "controller" defaults.controller ++
    optionalMember "action" defaults.action)

structure Given where
  controller : Option (Option String) := none
  action : Option (Option String) := none

def fields (_ : Depth) : List (RecordField Given) :=
  [⟨"controller", (·.controller.isSome), fun given value => do
      return { given with controller := some (← value.optionalString) }⟩,
    ⟨"action", (·.action.isSome), fun given value => do
      return { given with action := some (← value.optionalString) }⟩]

def decode (depth : Depth) (draft : Draft) : Except ReadError Defaults := do
  let given ← draft.record depth .defaults fields {}
  return ⟨given.controller.join, given.action.join⟩

end Defaults

namespace Route

def toJson (route : Route) : Value :=
  .object (optionalMember "name" route.name ++
    [("path", route.path.toJson), ("defaults", route.defaults.toJson)])

structure Given where
  name : Option (Option String) := none
  path : Option Pattern := none
  defaults : Option Defaults := none

def fields (depth : Depth) : List (RecordField Given) :=
  [⟨"name", (·.name.isSome), fun given value => do
      return { given with name := some (← value.optionalString) }⟩,
    ⟨"path", (·.path.isSome), fun given value => do
      return { given with path := some (← Pattern.decode depth value) }⟩,
    ⟨"defaults", (·.defaults.isSome), fun given value => do
      return { given with defaults := some (← Defaults.decode depth value) }⟩]

def noPath : Draft → ReadError
  | .list _ => .wrongLength 1 .route 3
  | _ => .missingField "path"

def decode (depth : Depth) (draft : Draft) : Except ReadError Route := do
  let given ← draft.record depth .route fields {}
  match given.path with
  | some path => return ⟨given.name.join, path, given.defaults.getD {}⟩
  | none => .error (noPath draft)

def read (text : String) : Except ReadError Route := Json.read (decode .limited) text

end Route

end RouteTemplate
