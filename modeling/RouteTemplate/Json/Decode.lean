import RouteTemplate.Json.Draft
import RouteTemplate.Json.Numeral
import RouteTemplate.Json.ReadError

/-!
Reading drafts: strings, lists and records, and values that are only skipped. Every reader answers
with the first thing wrong from left to right. A record may be written as an object, whose unknown
members are skipped, or as the list of its fields in order.
-/

namespace RouteTemplate.Json

instance : MonadLift (Except Fault) (Except ReadError) where
  monadLift
    | .ok value => .ok value
    | .error fault => .error (.malformed fault)

/-- How many lists and objects may still be opened inside one another; `none` for any number. -/
abbrev Depth := Option Nat

namespace Depth

def limited : Depth := some 127

def enter : Depth → Except Fault Depth
  | none => .ok none
  | some 0 => .error .tooDeep
  | some (depth + 1) => .ok (some depth)

end Depth

namespace ListEnd

def check : ListEnd → Except Fault Unit
  | closed => .ok ()
  | cutOff => .error .listCutOff
  | stray => .error .listSeparatorExpected
  | trailingComma => .error .trailingComma
  | cutOffAfterComma => .error .valueCutOff

/-- In a list of fixed length the closing bracket must follow the last item. -/
def checkFixed : ListEnd → Except Fault Unit
  | closed => .ok ()
  | cutOff => .error .listCutOff
  | trailingComma => .error .trailingComma
  | stray | cutOffAfterComma => .error .trailingText

def skip : ListEnd → Except Fault Unit
  | closed => .ok ()
  | cutOff => .error .listCutOff
  | stray => .error .listSeparatorExpected
  | trailingComma => .error .valueExpected
  | cutOffAfterComma => .error .valueCutOff

end ListEnd

namespace ObjectEnd

def check : ObjectEnd → Except Fault Unit
  | closed => .ok ()
  | cutOff => .error .objectCutOff
  | stray => .error .objectSeparatorExpected
  | trailingComma => .error .trailingComma
  | cutOffAfterComma => .error .valueCutOff
  | badKey => .error .keyExpected
  | loneKey _ true => .error .objectCutOff
  | loneKey _ false => .error .colonExpected

def skip : ObjectEnd → Except Fault Unit
  | closed => .ok ()
  | cutOff | cutOffAfterComma => .error .objectCutOff
  | stray => .error .objectSeparatorExpected
  | trailingComma | badKey => .error .keyExpected
  | loneKey key ended => do
    key.skip
    .error (if ended then .objectCutOff else .colonExpected)

end ObjectEnd

mutual

def Draft.skip : Draft → Except Fault Unit
  | .cutOff => .error .valueCutOff
  | .stray => .error .valueExpected
  | .word (.ok _) => .ok ()
  | .word (.error fault) => .error fault
  | .number (.ok _) => .ok ()
  | .number (.error _) => .error .badNumber
  | .text lexeme => lexeme.skip
  | .list items => items.skip
  | .object members => members.skip

def Items.skip : Items → Except Fault Unit
  | .stop ending => ending.skip
  | .item first others => do
    first.skip
    others.skip

def Members.skip : Members → Except Fault Unit
  | .stop ending => ending.skip
  | .member key value others => do
    key.skip
    value.skip
    others.skip

end

namespace Draft

/-- What a draft holds, as far as an error message says it: of a list or object only that it is
one. -/
def found : Draft → Except Fault Found
  | cutOff => .error .valueCutOff
  | stray => .error .valueExpected
  | word (.error fault) => .error fault
  | word (.ok .null) => .ok .null
  | word (.ok .false) => .ok (.boolean false)
  | word (.ok .true) => .ok (.boolean true)
  | number numeral => do
    match ← (← numeral).quantity with
    | .integer value => return .integer value
    | .float value => return .float (floatText value)
  | text lexeme => return .string (← lexeme.decode)
  | list _ => .ok .list
  | object _ => .ok .object

def reject {α : Type} (wanted : Shape) (draft : Draft) : Except ReadError α :=
  match draft.found with
  | .error fault => .error (.malformed fault)
  | .ok found => .error (.wrongType found wanted)

def string : Draft → Except ReadError String
  | text lexeme => lexeme.decode
  | draft => draft.reject .string

def optionalString : Draft → Except ReadError (Option String)
  | word (.ok .null) => .ok none
  | draft => some <$> draft.string

def boolean : Draft → Except ReadError Bool
  | word (.ok .false) => .ok false
  | word (.ok .true) => .ok true
  | draft => draft.reject .boolean

def unit : Draft → Except ReadError Unit
  | word (.ok .null) => .ok ()
  | draft => draft.reject .unit

end Draft

namespace Items

variable {α : Type}

def mapM (read : Draft → Except ReadError α) : Items → Except ReadError (List α)
  | stop ending => do
    ending.check
    return []
  | item first others => do
    let value ← read first
    return value :: (← others.mapM read)

def finish : Items → Except Fault Unit
  | stop ending => ending.checkFixed
  | item _ _ => .error .trailingText

end Items

def Draft.strings (depth : Depth) (wanted : Shape) : Draft → Except ReadError (List String)
  | list items => do
    let _ ← depth.enter
    items.mapM Draft.string
  | draft => draft.reject wanted

/-- Reads the members of an object one after another. What a key means is settled as soon as it is
read, before the colon and the value. -/
def Members.foldM {σ κ : Type} (interpret : σ → String → Except ReadError κ)
    (take : σ → κ → Draft → Except ReadError σ) (state : σ) : Members → Except ReadError σ
  | .stop (.loneKey key cutOff) => do
    let _ ← interpret state (← key.decode)
    (ObjectEnd.loneKey key cutOff).check
    return state
  | .stop ending => do
    ending.check
    return state
  | .member key value others => do
    let meaning ← interpret state (← key.decode)
    let state ← take state meaning value
    others.foldM interpret take state

structure RecordField (σ : Type) where
  key : String
  isGiven : σ → Bool
  take : σ → Draft → Except ReadError σ

namespace RecordField

variable {σ : Type}

/-- The field of that key, none for an unknown key. No field may be given twice. -/
def interpret (fields : List (RecordField σ)) (record : σ) (key : String) :
    Except ReadError (Option (RecordField σ)) :=
  match fields.find? fun field => field.key == key with
  | none => .ok none
  | some field => if field.isGiven record then .error (.repeatedField key) else .ok (some field)

def takeAny (record : σ) : Option (RecordField σ) → Draft → Except ReadError σ
  | some field, value => field.take record value
  | none, value => do
    value.skip
    return record

def takeMembers (fields : List (RecordField σ)) (record : σ) (members : Members) :
    Except ReadError σ :=
  members.foldM (interpret fields) takeAny record

def takeItems (record : σ) : List (RecordField σ) → Items → Except ReadError σ
  | [], items => do
    items.finish
    return record
  | _ :: _, .stop ending => do
    ending.check
    return record
  | field :: fields, .item first others => do
    takeItems (← field.take record first) fields others

end RecordField

def Draft.record {σ : Type} (depth : Depth) (wanted : Shape) (fields : Depth → List (RecordField σ))
    (start : σ) : Draft → Except ReadError σ
  | list items => do RecordField.takeItems start (fields (← depth.enter)) items
  | object members => do RecordField.takeMembers (fields (← depth.enter)) start members
  | draft => draft.reject wanted

def read {α : Type} (decode : Draft → Except ReadError α) (text : String) :
    Except ReadError α := do
  let document := Document.ofText text
  let value ← decode document.root
  if document.trailing then .error (.malformed .trailingText) else return value

end RouteTemplate.Json
