import RouteTemplate.Event
import RouteTemplate.Options

namespace RouteTemplate

structure Template where
  text : String
  deriving DecidableEq, Repr, Ord

/-- Appends the query for the given names, which are taken as they are. -/
def withQuery (path : String) (names : List String) : String :=
  if names.isEmpty then path else path ++ "\x7b?" ++ ",".intercalate names ++ "\x7d"

abbrev ParamSource := Action → Option (List String)

structure Compiler where
  options : Options
  source : Option ParamSource := none
  action : Option Action := none

abbrev CompileM := Logged CompileError

namespace Pattern

def compilePathLogged (options : Options) (pattern : Pattern) : CompileM String :=
  let (outcome, walk) := pattern.walk options.ignored
  ⟨outcome, walk.visits.toList.map .visit⟩

end Pattern

namespace Compiler

def queryNames (compiler : Compiler) : CompileM (List String) := do
  if !compiler.options.params then return []
  match compiler.source, compiler.action with
  | some source, some action =>
    if !action.isComplete then
      Logged.report (.incompleteAction action)
      return []
    match source action with
    | some names => return names
    | none =>
      Logged.report (.unregisteredAction action)
      return []
  | _, _ => return []

def compile (compiler : Compiler) (pattern : Pattern) : CompileM Template := do
  let path ← pattern.compilePathLogged compiler.options
  let names ← compiler.queryNames
  let template := withQuery path names
  Logged.report (.compiledRoute pattern.text template)
  return ⟨template⟩

end Compiler

end RouteTemplate
