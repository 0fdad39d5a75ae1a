import RouteTemplate.Options

/-!
The arguments of the command line. A value follows its option in the next argument, after `=`, or
right after a letter; `--` ends the options, and a lone `-` is not one.
-/

namespace RouteTemplate.CommandLine

inductive Switch where
  | tree
  | param
  | ignore
  | noIgnore
  | noParams
  | json
  | name
  deriving DecidableEq, Repr

namespace Switch

def long : Switch → String
  | tree => "ast"
  | param => "param"
  | ignore => "ignore"
  | noIgnore => "no-ignore"
  | noParams => "no-params"
  | json => "json"
  | name => "name"

def letter? : Switch → Option Char
  | tree => some 'a'
  | param => some 'p'
  | name => some 'n'
  | ignore | noIgnore | noParams | json => none

def takesValue : Switch → Bool
  | tree | param | ignore | name => true
  | noIgnore | noParams | json => false

def isRepeatable : Switch → Bool
  | param | ignore => true
  | tree | noIgnore | noParams | json | name => false

end Switch

inductive Setting where
  | flag (switch : Switch)
  | value (switch : Switch) (text : String)
  | path (path : String)
  deriving DecidableEq, Repr

inductive Argument where
  | complete (setting : Setting)
  | awaitsValue (switch : Switch)
  deriving DecidableEq, Repr

namespace Argument

def ofSwitch (switch : Switch) (attached : Option (List Char)) : Option Argument :=
  match switch.takesValue, attached with
  | true, some value => some (complete (.value switch (String.ofList value)))
  | true, none => some (awaitsValue switch)
  | false, none => some (complete (.flag switch))
  | false, some _ => none

def read (allowed : List Switch) (argument : String) : Option Argument :=
  match argument.toList with
  | '-' :: '-' :: long => do
    let (name, attached) := long.span (· ≠ '=')
    let switch ← allowed.find? fun switch => switch.long == String.ofList name
    ofSwitch switch attached.tail?
  | '-' :: letter :: attached => do
    let switch ← allowed.find? fun switch => switch.letter? == some letter
    match attached with
    | [] => ofSwitch switch none
    | '=' :: value => ofSwitch switch (some value)
    | value => ofSwitch switch (some value)
  | _ => some (complete (.path argument))

end Argument

/-- Whether an argument can be an option, and so not the value of the option before it. -/
def looksLikeOption (argument : String) : Bool :=
  argument != "-" && argument.toList.head? == some '-'

namespace Setting

def readAll (allowed : List Switch) : List String → Option (List Setting)
  | [] => some []
  | argument :: others =>
    if argument = "--" then some (others.map path)
    else
      match Argument.read allowed argument with
      | none => none
      | some (.complete setting) => (readAll allowed others).map (setting :: ·)
      | some (.awaitsValue switch) =>
        match others with
        | [] => none
        | text :: others =>
          if looksLikeOption text then none
          else (readAll allowed others).map (value switch text :: ·)

def switch? : Setting → Option Switch
  | flag switch | value switch _ => some switch
  | path _ => none

def path? : Setting → Option String
  | path text => some text
  | _ => none

def valueOf? (switch : Switch) : Setting → Option String
  | value other text => if other = switch then some text else none
  | _ => none

end Setting

abbrev Settings := List Setting

namespace Settings

def has (settings : Settings) (switch : Switch) : Bool :=
  settings.any fun setting => setting.switch? == some switch

def values (settings : Settings) (switch : Switch) : List String :=
  settings.filterMap (Setting.valueOf? switch)

def value? (settings : Settings) (switch : Switch) : Option String :=
  (settings.values switch).head?

def paths (settings : Settings) : List String := settings.filterMap Setting.path?

def areValid (settings : Settings) : Bool :=
  let once := (settings.filterMap Setting.switch?).filter (!·.isRepeatable)
  decide once.Nodup && settings.paths.length ≤ 1 && !settings.paths.contains ""

def read (allowed : List Switch) (arguments : List String) : Option Settings := do
  let settings : Settings ← Setting.readAll allowed arguments
  guard settings.areValid
  return settings

def options (settings : Settings) : Options :=
  let start :=
    if settings.has .noIgnore then Options.default.withIgnored [] else Options.default
  let named := (settings.values .ignore).foldl Options.ignore start
  if settings.has .noParams then named.withoutParams else named

end Settings

end RouteTemplate.CommandLine
