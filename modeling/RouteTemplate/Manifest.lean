import RouteTemplate.Registry
import RouteTemplate.Route

namespace RouteTemplate

structure Manifest where
  routes : List Route
  params : Registry

inductive ManifestError where
  | unknownRoute (name : String)
  | compile (error : CompileError)
  deriving DecidableEq, Repr

def ManifestError.message : ManifestError → String
  | unknownRoute name => "no named route for `" ++ name ++ "`"
  | compile error => error.message

namespace Manifest

def empty : Manifest := ⟨[], Registry.empty⟩

def ofRoutes (routes : List Route) : Manifest := ⟨routes, Registry.empty⟩

def push (manifest : Manifest) (route : Route) : Manifest :=
  { manifest with routes := manifest.routes ++ [route] }

def route? (manifest : Manifest) (name : String) : Option Route :=
  manifest.routes.reverse.find? fun route => route.name == some name

/-- Whether two manifests have the same routes in order and the same parameters in any order. -/
def isSame (first second : Manifest) : Bool :=
  first.routes == second.routes && first.params.sameEntries second.params

def compileRoute (manifest : Manifest) (options : Options) (route : Route) : CompileM Template :=
  route.compile options (some manifest.params.namesFor?)

def templatesOf (manifest : Manifest) (options : Options) : List Route → CompileM (List Template)
  | [] => return []
  | route :: routes => do
    let template ← manifest.compileRoute options route
    let templates ← manifest.templatesOf options routes
    return template :: templates

def templates (manifest : Manifest) (options : Options) : CompileM (List Template) := do
  Logged.report (.compilingSet manifest.routes.length)
  manifest.templatesOf options manifest.routes

def namedTemplatesOf (manifest : Manifest) (options : Options)
    (found : OrderedMap String Template) : List Route → CompileM (OrderedMap String Template)
  | [] => return found
  | route :: routes =>
    match route.name with
    | none => manifest.namedTemplatesOf options found routes
    | some name => do
      let template ← manifest.compileRoute options route
      manifest.namedTemplatesOf options (found.insert name template) routes

def namedTemplates (manifest : Manifest) (options : Options) :
    CompileM (OrderedMap String Template) :=
  manifest.namedTemplatesOf options .empty manifest.routes

def templateFor (manifest : Manifest) (options : Options) (name : String) :
    Logged ManifestError Template :=
  match manifest.route? name with
  | some route => (manifest.compileRoute options route).mapError .compile
  | none => .fail (.unknownRoute name)

open Json (Value Draft Depth RecordField ReadError)

def toJson (manifest : Manifest) : Value :=
  .object [("routes", .list (manifest.routes.map Route.toJson)),
    ("params", manifest.params.toJson)]

def decodeRoutes (depth : Depth) : Draft → Except ReadError (List Route)
  | .list items => do
    let depth ← depth.enter
    items.mapM (Route.decode depth)
  | draft => draft.reject .sequence

structure Given where
  routes : Option (List Route) := none
  params : Option Registry := none

def fields (depth : Depth) : List (RecordField Given) :=
  [⟨"routes", (·.routes.isSome), fun given value => do
      return { given with routes := some (← decodeRoutes depth value) }⟩,
    ⟨"params", (·.params.isSome), fun given value => do
      return { given with params := some (← Registry.decode depth value) }⟩]

def decode (depth : Depth) (draft : Draft) : Except ReadError Manifest := do
  let given ← draft.record depth .routeSet fields {}
  return ⟨given.routes.getD [], given.params.getD Registry.empty⟩

def read (text : String) : Except ReadError Manifest := Json.read (decode none) text

end Manifest

end RouteTemplate
