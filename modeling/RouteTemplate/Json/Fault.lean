namespace RouteTemplate.Json

inductive Fault where
  | valueCutOff
  | stringCutOff
  | listCutOff
  | objectCutOff
  | valueExpected
  | wordExpected
  | colonExpected
  | listSeparatorExpected
  | objectSeparatorExpected
  | keyExpected
  | trailingComma
  | trailingText
  | badNumber
  | numberOutOfRange
  | badEscape
  | controlCharacter
  /-- A low surrogate comes first, or a high one is followed by the escape of another unit. -/
  | loneSurrogate
  /-- A high surrogate is not followed by an escape at all. -/
  | unpairedSurrogate
  | tooDeep
  deriving DecidableEq, Repr

namespace Fault

def isCutOff : Fault → Bool
  | valueCutOff | stringCutOff | listCutOff | objectCutOff => true
  | _ => false

def message : Fault → String
  | valueCutOff => "EOF while parsing a value"
  | stringCutOff => "EOF while parsing a string"
  | listCutOff => "EOF while parsing a list"
  | objectCutOff => "EOF while parsing an object"
  | valueExpected => "expected value"
  | wordExpected => "expected ident"
  | colonExpected => "expected `:`"
  | listSeparatorExpected => "expected `,` or `]`"
  | objectSeparatorExpected => "expected `,` or `\x7d`"
  | keyExpected => "key must be a string"
  | trailingComma => "trailing comma"
  | trailingText => "trailing characters"
  | badNumber => "invalid number"
  | numberOutOfRange => "number out of range"
  | badEscape => "invalid escape"
  | controlCharacter => "control character (\\u0000-\\u001F) found while parsing a string"
  | loneSurrogate => "lone leading surrogate in hex escape"
  | unpairedSurrogate => "unexpected end of hex escape"
  | tooDeep => "recursion limit exceeded"

end Fault

end RouteTemplate.Json
