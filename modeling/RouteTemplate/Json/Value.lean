namespace RouteTemplate.Json

inductive Value where
  | boolean (value : Bool)
  | text (value : String)
  | list (items : List Value)
  | object (members : List (String × Value))
  deriving Repr, Inhabited

def escapedChar (c : Char) : List Char :=
  match c with
  | '"' => ['\\', '"']
  | '\\' => ['\\', '\\']
  | '\x08' => ['\\', 'b']
  | '\t' => ['\\', 't']
  | '\n' => ['\\', 'n']
  | '\x0c' => ['\\', 'f']
  | '\r' => ['\\', 'r']
  | c =>
    if c.toNat < 0x20 then
      ['\\', 'u', '0', '0', Nat.digitChar (c.toNat / 16), Nat.digitChar (c.toNat % 16)]
    else [c]

def stringText (value : String) : String :=
  String.ofList ('"' :: value.toList.flatMap escapedChar ++ ['"'])

namespace Value

mutual

def compact : Value → String
  | .boolean value => if value then "true" else "false"
  | .text value => stringText value
  | .list items => "[" ++ ",".intercalate (itemTexts items) ++ "]"
  | .object members => "\x7b" ++ ",".intercalate (memberTexts members) ++ "\x7d"

def itemTexts : List Value → List String
  | [] => []
  | item :: others => compact item :: itemTexts others

def memberTexts : List (String × Value) → List String
  | [] => []
  | (key, value) :: others => (stringText key ++ ":" ++ compact value) :: memberTexts others

end

end Value

def prettyMember (member : String × String) : String :=
  "  " ++ stringText member.1 ++ ": " ++ stringText member.2

def prettyObject (members : List (String × String)) : String :=
  if members.isEmpty then "\x7b\x7d"
  else "\x7b\n" ++ ",\n".intercalate (members.map prettyMember) ++ "\n\x7d"

end RouteTemplate.Json
