import RouteTemplate.Json.Decode
import RouteTemplate.Json.Value
import RouteTemplate.Pattern.Basic

namespace RouteTemplate

def Kind.tag : Kind → String
  | .cat => "cat"
  | .literal => "literal"
  | .slash => "slash"
  | .dot => "dot"
  | .symbol => "symbol"
  | .or => "or"
  | .star => "star"
  | .group => "group"

def Kind.ofTag (tag : String) : Except Json.ReadError Kind :=
  match Kind.all.find? fun kind => kind.tag == tag with
  | some kind => .ok kind
  | none => .error (.unknownTag tag)

namespace Pattern

open Json (Value Draft Items Members Depth ReadError)

mutual

def toJson : Pattern → Value
  | .literal text => .object [(Kind.literal.tag, .text text)]
  | .slash => .text Kind.slash.tag
  | .dot => .text Kind.dot.tag
  | .symbol name => .object [(Kind.symbol.tag, .text name)]
  | .star child => .object [(Kind.star.tag, child.toJson)]
  | .cat left right => .object [(Kind.cat.tag, .list [left.toJson, right.toJson])]
  | .or branches => .object [(Kind.or.tag, .list (branchesToJson branches))]
  | .group child => .object [(Kind.group.tag, child.toJson)]

def branchesToJson : List Pattern → List Value
  | [] => []
  | branch :: others => branch.toJson :: branchesToJson others

end

def ofBareTag : Kind → Except ReadError Pattern
  | .slash => .ok .slash
  | .dot => .ok .dot
  | .cat => .error (.bareTag .pair)
  | .literal | .symbol | .or | .star | .group => .error (.bareTag .single)

def checkLast : Members → Except ReadError Unit
  | .stop .closed => .ok ()
  | .stop .cutOff => .error (.malformed .objectCutOff)
  | _ => .error (.malformed .valueExpected)

/-- What is wrong with an object that has no member. A tag is looked for as any other key is, so an
object that ends too soon, or has something else than a string there, is refused as any object. -/
def checkTagged : Json.ObjectEnd → Except ReadError Unit
  | .loneKey key cutOff => do
    let _ ← Kind.ofTag (← key.decode)
    (Json.ObjectEnd.loneKey key cutOff).check
  | .closed => .error (.malformed .valueExpected)
  | ending => ending.check

mutual

def decode (depth : Depth) : Draft → Except ReadError Pattern
  | .text lexeme => do ofBareTag (← Kind.ofTag (← lexeme.decode))
  | .object members => do decodeTagged (← depth.enter) members
  | .cutOff => .error (.malformed .valueCutOff)
  | _ => .error (.malformed .valueExpected)

def decodeTagged (depth : Depth) : Members → Except ReadError Pattern
  | .stop ending => do
    checkTagged ending
    .error (.malformed .valueExpected)
  | .member key value others => do
    let pattern ← match ← Kind.ofTag (← key.decode) with
      | .literal => literal <$> value.string
      | .slash => (fun _ => slash) <$> value.unit
      | .dot => (fun _ => dot) <$> value.unit
      | .symbol => symbol <$> value.string
      | .star => star <$> decode depth value
      | .cat => decodeOperands depth value
      | .or => or <$> decodeBranches depth value
      | .group => group <$> decode depth value
    checkLast others
    return pattern

def decodeOperands (depth : Depth) : Draft → Except ReadError Pattern
  | .list (.item left (.item right others)) => do
    let depth ← depth.enter
    let left ← decode depth left
    let right ← decode depth right
    others.finish
    return cat left right
  | .list (.item left (.stop ending)) => do
    let _ ← decode (← depth.enter) left
    ending.check
    .error (.wrongLength 1 .operands 2)
  | .list (.stop ending) => do
    let _ ← depth.enter
    ending.check
    .error (.wrongLength 0 .operands 2)
  | draft => draft.reject .operands

def decodeBranches (depth : Depth) : Draft → Except ReadError (List Pattern)
  | .list items => do decodeItems (← depth.enter) items
  | draft => draft.reject .sequence

def decodeItems (depth : Depth) : Items → Except ReadError (List Pattern)
  | .stop ending => do
    ending.check
    return []
  | .item first others => do
    let branch ← decode depth first
    return branch :: (← decodeItems depth others)

end

def read (text : String) : Except ReadError Pattern := Json.read (decode none) text

end Pattern

end RouteTemplate
