import RouteTemplate.Json.Decode
import RouteTemplate.Json.Value
import RouteTemplate.OrderedMap

namespace RouteTemplate

structure Options where
  ignored : Names
  params : Bool
  deriving DecidableEq, Repr

namespace Options

def default : Options := ⟨Names.ofList ["format"], true⟩

instance : Inhabited Options := ⟨default⟩

def withIgnored (options : Options) (names : List String) : Options :=
  { options with ignored := Names.ofList names }

def ignore (options : Options) (name : String) : Options :=
  { options with ignored := options.ignored.insert name }

def withoutParams (options : Options) : Options := { options with params := false }

def isIgnored (options : Options) (name : String) : Bool := options.ignored.contains name

open Json (Value Draft Depth RecordField ReadError)

def toJson (options : Options) : Value :=
  .object [("ignore", .list (options.ignored.toList.map .text)),
    ("params", .boolean options.params)]

structure Given where
  ignored : Option Names := none
  params : Option Bool := none

def fields (depth : Depth) : List (RecordField Given) :=
  [⟨"ignore", (·.ignored.isSome), fun given value => do
      return { given with ignored := some (Names.ofList (← value.strings depth .set)) }⟩,
    ⟨"params", (·.params.isSome), fun given value => do
      return { given with params := some (← value.boolean) }⟩]

def decode (depth : Depth) (draft : Draft) : Except ReadError Options := do
  let given ← draft.record depth .options fields {}
  return ⟨given.ignored.getD default.ignored, given.params.getD default.params⟩

def read (text : String) : Except ReadError Options := Json.read (decode .limited) text

end Options

end RouteTemplate
