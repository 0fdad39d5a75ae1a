import RouteTemplate.Json.Decode
import RouteTemplate.Json.Value
import RouteTemplate.OrderedMap

namespace RouteTemplate

namespace Action

open Json (Value Draft ReadError)

def toJson (action : Action) : Value := .text action.text

def ofKey (text : String) : Except ReadError Action :=
  match parse text with
  | .ok action => .ok action
  | .error fault => .error (.badAction fault)

def decode (draft : Draft) : Except ReadError Action := do ofKey (← draft.string)

def read (text : String) : Except ReadError Action := Json.read decode text

end Action

abbrev Registry := OrderedMap Action Names

namespace Registry

def empty : Registry := OrderedMap.empty

def register (registry : Registry) (action : Action) (names : List String) : Registry :=
  registry.insert action (Names.ofList names)

def registerAll (registry : Registry) (entries : List (Action × List String)) : Registry :=
  entries.foldl (fun registry entry => registry.register entry.1 entry.2) registry

def registerController (registry : Registry) (controller : String)
    (entries : List (String × List String)) : Registry :=
  registry.registerAll (entries.map fun (name, names) => (⟨controller, name⟩, names))

def ofList (entries : List (Action × List String)) : Registry := empty.registerAll entries

def ofMap (map : OrderedMap Action (List String)) : Registry := ofList map.entries

def toList (registry : Registry) : List (Action × List String) :=
  registry.entries.map fun (action, names) => (action, names.toList)

def extend (registry other : Registry) : Registry := registry.registerAll other.toList

def namesFor? (registry : Registry) (action : Action) : Option (List String) :=
  (registry.find? action).map Names.toList

open Json (Value Draft Depth ReadError)

def toJson (registry : Registry) : Value :=
  .object (registry.toList.map fun (action, names) => (action.text, .list (names.map .text)))

def decode (depth : Depth) : Draft → Except ReadError Registry
  | .object members => do
    let depth ← depth.enter
    let map ← members.foldM (fun _ key => Action.ofKey key)
      (fun map action value => do
        return OrderedMap.insert map action (← value.strings depth .sequence))
      OrderedMap.empty
    return ofMap map
  | draft => draft.reject .map

def read (text : String) : Except ReadError Registry := Json.read (decode .limited) text

end Registry

end RouteTemplate
