import RouteTemplate.CommandLine.Input
import RouteTemplate.Json.ReadError
import RouteTemplate.Manifest
import RouteTemplate.Pattern.Basic

/-!
What a command prints. A run prints all of its result or none of it.

Two texts are left to others: what is answered to arguments that are no command, which may be help,
and the account that the reader of JSON gives of a text it refuses, with the line and the column.
-/

namespace RouteTemplate.CommandLine

inductive Failure where
  | input (error : InputError)
  | json (subject : Subject) (text : String) (error : Json.ReadError)
  | manifest (error : ManifestError)
  deriving DecidableEq, Repr

/-- The action for which the parameters on the command line are registered. -/
def commandAction : Action := ⟨"cli", "compile"⟩

def compileTree (params : List String) (options : Options) (pattern : Pattern) :
    Except CompileError String := do
  let registry := Registry.empty.register commandAction params
  let compiler := Compiler.mk options (some registry.namesFor?) (some commandAction)
  let template ← (compiler.compile pattern).outcome
  return template.text ++ "\n"

def outlineTree (pattern : Pattern) : String :=
  pattern.outline ++ "\npattern: " ++ pattern.text ++ "\n"

def listingLine (route : Route) (template : Template) : String :=
  match route.name with
  | some name => name ++ "\t" ++ template.text
  | none => template.text

def showManifest (options : Options) (manifest : Manifest) : View → Except ManifestError String
  | .listing => do
    let templates ← (manifest.templates options).outcome.mapError .compile
    return "\n".intercalate (manifest.routes.zipWith listingLine templates) ++ "\n"
  | .json => do
    let templates ← (manifest.namedTemplates options).outcome.mapError .compile
    let members := templates.entries.map fun (name, template) => (name, template.text)
    return Json.prettyObject members ++ "\n"
  | .named name => do
    let template ← (manifest.templateFor options name).outcome
    return template.text ++ "\n"

namespace Command

def run (world : World) : Command → Except Failure String
  | compile source params options => do
    let text ← (world.load .tree source).mapError .input
    let pattern ← (Pattern.read text).mapError (.json .tree text)
    (compileTree params options pattern).mapError fun error => .manifest (.compile error)
  | routes source view options => do
    let text ← (world.load .manifest (some source)).mapError .input
    let manifest ← (Manifest.read text).mapError (.json .manifest text)
    (showManifest options manifest view).mapError .manifest
  | outline source => do
    let text ← (world.load .tree source).mapError .input
    let pattern ← (Pattern.read text).mapError (.json .tree text)
    return outlineTree pattern

end Command

structure Outcome where
  code : UInt8
  output : String
  errors : String
  deriving DecidableEq, Repr

structure Wording where
  misuse : List String → Outcome
  malformed : Subject → String → Json.ReadError → String

namespace Wording

/-- Without help or usage, and without the place in a text. -/
def bare : Wording := ⟨fun _ => ⟨2, "", ""⟩, fun _ _ error => error.message⟩

variable (wording : Wording)

def message : Failure → String
  | .input error => error.message
  | .json subject text error => "invalid JSON: " ++ wording.malformed subject text error
  | .manifest error => error.message

def outcome : Except Failure String → Outcome
  | .ok output => ⟨0, output, ""⟩
  | .error failure => ⟨1, "", "error: " ++ wording.message failure ++ "\n"⟩

def run (world : World) (arguments : List String) : Outcome :=
  match Command.read arguments with
  | some command => wording.outcome (command.run world)
  | none => wording.misuse arguments

end Wording

def run (world : World) (arguments : List String) : Outcome := Wording.bare.run world arguments

end RouteTemplate.CommandLine
