import RouteTemplate.Json.Token

/-!
Drafts: what a JSON text says up to the point where it stops being JSON. A draft is the tree of the
text, and the place where the text breaks off is a leaf of it. Reading a type from a text is then a
recursion on the draft that meets the parts of the text from left to right, so that of two faults
the earlier one is found, whether it lies in the text or in what the text says.

The tree is built by running through the tokens once, holding the lists and objects that are still
open; how deep they are nested does not matter.
-/

namespace RouteTemplate.Json

inductive ListEnd where
  | closed
  | cutOff
  | stray
  | trailingComma
  | cutOffAfterComma
  deriving DecidableEq, Repr

inductive ObjectEnd where
  | closed
  | cutOff
  | stray
  | trailingComma
  | cutOffAfterComma
  | badKey
  /-- A key that no colon follows; `cutOff` says whether the text ends there. -/
  | loneKey (key : Lexeme) (cutOff : Bool)
  deriving DecidableEq, Repr

mutual

inductive Draft where
  | cutOff
  | stray
  | word (word : Except Fault Word)
  | number (number : Except Fault Numeral)
  | text (lexeme : Lexeme)
  | list (items : Items)
  | object (members : Members)

inductive Items where
  | stop (ending : ListEnd)
  | item (first : Draft) (others : Items)

inductive Members where
  | stop (ending : ObjectEnd)
  | member (key : Lexeme) (value : Draft) (others : Members)

end

namespace Items

def ofReversed (ending : ListEnd) (items : List Draft) : Items :=
  items.foldl (fun others first => item first others) (stop ending)

end Items

namespace Members

def ofReversed (ending : ObjectEnd) (members : List (Lexeme × Draft)) : Members :=
  members.foldl (fun others first => member first.1 first.2 others) (stop ending)

end Members

/-- A list or object in which a value is being read, and what stands in it before that value, the
latest first. -/
inductive Frame where
  | item (items : List Draft)
  | member (members : List (Lexeme × Draft)) (key : Lexeme)

def Draft.within (draft : Draft) : List Frame → Draft
  | [] => draft
  | .item items :: outer =>
    (Draft.list (Items.ofReversed .cutOff (draft :: items))).within outer
  | .member members key :: outer =>
    (Draft.object (Members.ofReversed .cutOff ((key, draft) :: members))).within outer

structure Document where
  root : Draft
  /-- Whether tokens follow the root. -/
  trailing : Bool

/-- Where in the text a reading stands, and what it has read so far. -/
inductive State where
  | value (outer : List Frame)
  | listStart (outer : List Frame)
  | listNext (items : List Draft) (outer : List Frame)
  | afterItem (items : List Draft) (outer : List Frame)
  | objectStart (outer : List Frame)
  | objectNext (members : List (Lexeme × Draft)) (outer : List Frame)
  | afterKey (members : List (Lexeme × Draft)) (key : Lexeme) (outer : List Frame)
  | afterMember (members : List (Lexeme × Draft)) (outer : List Frame)
  | afterRoot (root : Draft)
  | settled (document : Document)

namespace State

def put (draft : Draft) : List Frame → State
  | [] => afterRoot draft
  | .item items :: outer => afterItem (draft :: items) outer
  | .member members key :: outer => afterMember ((key, draft) :: members) outer

def breakOff (draft : Draft) (outer : List Frame) : State := settled ⟨draft.within outer, false⟩

def readValue (outer : List Frame) : Token → State
  | .word word => put (.word word) outer
  | .number number => put (.number number) outer
  | .text lexeme => put (.text lexeme) outer
  | .openList => listStart outer
  | .openObject => objectStart outer
  | .closeList | .closeObject | .comma | .colon | .stray => breakOff .stray outer

def step : State → Token → State
  | value outer, token => readValue outer token
  | listStart outer, .closeList => put (.list (.stop .closed)) outer
  | listStart outer, token => readValue (.item [] :: outer) token
  | listNext items outer, .closeList => breakOff (.list (.ofReversed .trailingComma items)) outer
  | listNext items outer, token => readValue (.item items :: outer) token
  | afterItem items outer, .comma => listNext items outer
  | afterItem items outer, .closeList => put (.list (.ofReversed .closed items)) outer
  | afterItem items outer, _ => breakOff (.list (.ofReversed .stray items)) outer
  | objectStart outer, .closeObject => put (.object (.stop .closed)) outer
  | objectStart outer, .text key => afterKey [] key outer
  | objectStart outer, _ => breakOff (.object (.stop .badKey)) outer
  | objectNext members outer, .text key => afterKey members key outer
  | objectNext members outer, .closeObject =>
    breakOff (.object (.ofReversed .trailingComma members)) outer
  | objectNext members outer, _ => breakOff (.object (.ofReversed .badKey members)) outer
  | afterKey members key outer, .colon => value (.member members key :: outer)
  | afterKey members key outer, _ =>
    breakOff (.object (.ofReversed (.loneKey key false) members)) outer
  | afterMember members outer, .comma => objectNext members outer
  | afterMember members outer, .closeObject => put (.object (.ofReversed .closed members)) outer
  | afterMember members outer, _ => breakOff (.object (.ofReversed .stray members)) outer
  | afterRoot root, _ => settled ⟨root, true⟩
  | settled document, _ => settled document

def document : State → Document
  | value outer => ⟨Draft.cutOff.within outer, false⟩
  | listStart outer => ⟨(Draft.list (.stop .cutOff)).within outer, false⟩
  | listNext items outer =>
    ⟨(Draft.list (.ofReversed .cutOffAfterComma items)).within outer, false⟩
  | afterItem items outer => ⟨(Draft.list (.ofReversed .cutOff items)).within outer, false⟩
  | objectStart outer => ⟨(Draft.object (.stop .cutOff)).within outer, false⟩
  | objectNext members outer =>
    ⟨(Draft.object (.ofReversed .cutOffAfterComma members)).within outer, false⟩
  | afterKey members key outer =>
    ⟨(Draft.object (.ofReversed (.loneKey key true) members)).within outer, false⟩
  | afterMember members outer =>
    ⟨(Draft.object (.ofReversed .cutOff members)).within outer, false⟩
  | afterRoot root => ⟨root, false⟩
  | settled document => document

end State

namespace Document

def ofTokens (tokens : List Token) : Document := (tokens.foldl State.step (.value [])).document

def ofText (text : String) : Document := ofTokens (Token.scan text.toList)

end Document

end RouteTemplate.Json
