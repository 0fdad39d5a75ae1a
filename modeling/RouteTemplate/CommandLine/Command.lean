import RouteTemplate.CommandLine.Arguments

namespace RouteTemplate.CommandLine

inductive Source where
  | inline (text : String)
  | standardInput
  | file (path : String)
  deriving DecidableEq, Repr

def Source.ofPath (path : String) : Source := if path = "-" then standardInput else file path

inductive View where
  | listing
  | json
  | named (name : String)
  deriving DecidableEq, Repr

inductive Command where
  | compile (source : Option Source) (params : List String) (options : Options)
  | routes (source : Source) (view : View) (options : Options)
  | outline (source : Option Source)
  deriving DecidableEq, Repr

namespace Command

def source? : Command → Option Source
  | compile source _ _ => source
  | routes source _ _ => some source
  | outline source => source

/-- A tree comes from a path or from `--ast`, not from both. -/
def treeSource (settings : Settings) : Option (Option Source) :=
  match settings.paths.head?, settings.value? .tree with
  | some _, some _ => none
  | some path, none => some (some (Source.ofPath path))
  | none, some text => some (some (.inline text))
  | none, none => some none

def view? (settings : Settings) : Option View :=
  match settings.has .json, settings.value? .name with
  | true, some _ => none
  | true, none => some .json
  | false, some name => some (.named name)
  | false, none => some .listing

def read : List String → Option Command
  | "compile" :: arguments => do
    let settings ← Settings.read [.tree, .param, .ignore, .noIgnore, .noParams] arguments
    return compile (← treeSource settings) (settings.values .param) settings.options
  | "routes" :: arguments => do
    let settings ← Settings.read [.json, .name, .ignore, .noIgnore, .noParams] arguments
    let path ← settings.paths.head?
    return routes (Source.ofPath path) (← view? settings) settings.options
  | "ast" :: arguments => do
    let settings ← Settings.read [.tree] arguments
    return outline (← treeSource settings)
  | _ => none

end Command

end RouteTemplate.CommandLine
