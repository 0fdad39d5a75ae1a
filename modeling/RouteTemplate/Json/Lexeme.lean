import RouteTemplate.Json.Fault

/-!
Strings as they stand in a JSON text. Scanning finds where a string ends and keeps its pieces;
what the string means, and whether its surrogates pair up, is settled by `Lexeme.decode`. A string
whose value nobody needs is only held to `Lexeme.skip`.
-/

namespace RouteTemplate.Json

inductive Piece where
  /-- A character that stands for itself or is written by an escape of one letter. -/
  | char (c : Char)
  | unit (code : Nat)
  deriving DecidableEq, Repr

inductive LexemeEnd where
  | closed
  | cutOff
  | control
  | unknownEscape
  | badDigits
  deriving DecidableEq, Repr

structure Lexeme where
  pieces : List Piece
  ending : LexemeEnd
  deriving DecidableEq, Repr

def shortEscape? : Char → Option Char
  | '"' => some '"'
  | '\\' => some '\\'
  | '/' => some '/'
  | 'b' => some '\x08'
  | 'f' => some '\x0c'
  | 'n' => some '\n'
  | 'r' => some '\r'
  | 't' => some '\t'
  | _ => none

def hexValue? (c : Char) : Option Nat :=
  if '0' ≤ c ∧ c ≤ '9' then some (c.toNat - '0'.toNat)
  else if 'a' ≤ c ∧ c ≤ 'f' then some (c.toNat - 'a'.toNat + 10)
  else if 'A' ≤ c ∧ c ≤ 'F' then some (c.toNat - 'A'.toNat + 10)
  else none

def unit? (a b c d : Char) : Option Nat := do
  let a ← hexValue? a
  let b ← hexValue? b
  let c ← hexValue? c
  let d ← hexValue? d
  return ((a * 16 + b) * 16 + c) * 16 + d

/-- Four digits take four bytes of UTF-8. Where the text has fewer left it ends too soon; where it
has enough, something else stands in the place of a digit. -/
def missingDigits (rest : List Char) : LexemeEnd :=
  if rest.foldr (·.utf8Size + ·) 0 < 4 then .cutOff else .badDigits

namespace Lexeme

/-- Scans on from inside a string of which `seen` has been read, the latest piece first. -/
def scanFrom (seen : List Piece) : List Char → Lexeme × List Char
  | [] => (⟨seen.reverse, .cutOff⟩, [])
  | '"' :: rest => (⟨seen.reverse, .closed⟩, rest)
  | '\\' :: 'u' :: a :: b :: c :: d :: rest =>
    match unit? a b c d with
    | some code => scanFrom (.unit code :: seen) rest
    | none => (⟨seen.reverse, .badDigits⟩, rest)
  | '\\' :: 'u' :: rest => (⟨seen.reverse, missingDigits rest⟩, rest)
  | '\\' :: c :: rest =>
    match shortEscape? c with
    | some c => scanFrom (.char c :: seen) rest
    | none => (⟨seen.reverse, .unknownEscape⟩, rest)
  | ['\\'] => (⟨seen.reverse, .cutOff⟩, [])
  | c :: rest =>
    if c.toNat < 0x20 then (⟨seen.reverse, .control⟩, rest)
    else scanFrom (.char c :: seen) rest

def scan (text : List Char) : Lexeme × List Char := scanFrom [] text

def endFault : LexemeEnd → Option Fault
  | .closed => none
  | .cutOff => some .stringCutOff
  | .control => some .controlCharacter
  | .unknownEscape | .badDigits => some .badEscape

def endFaultAfterHigh : LexemeEnd → Fault
  | .closed | .control | .unknownEscape => .unpairedSurrogate
  | .cutOff => .stringCutOff
  | .badDigits => .badEscape

def isHigh (code : Nat) : Bool := 0xD800 ≤ code && code ≤ 0xDBFF

def isLow (code : Nat) : Bool := 0xDC00 ≤ code && code ≤ 0xDFFF

def joinSurrogates (high low : Nat) : Char :=
  Char.ofNat (0x10000 + (high - 0xD800) * 0x400 + (low - 0xDC00))

def decodeFrom (seen : List Char) (ending : LexemeEnd) : List Piece → Except Fault String
  | [] =>
    match endFault ending with
    | none => .ok (String.ofList seen.reverse)
    | some fault => .error fault
  | .char c :: pieces => decodeFrom (c :: seen) ending pieces
  | .unit code :: pieces =>
    if isLow code then .error .loneSurrogate
    else if isHigh code then
      match pieces with
      | .unit low :: pieces =>
        if isLow low then decodeFrom (joinSurrogates code low :: seen) ending pieces
        else .error .loneSurrogate
      | .char _ :: _ => .error .unpairedSurrogate
      | [] => .error (endFaultAfterHigh ending)
    else decodeFrom (Char.ofNat code :: seen) ending pieces

def decode (lexeme : Lexeme) : Except Fault String :=
  decodeFrom [] lexeme.ending lexeme.pieces

def skip (lexeme : Lexeme) : Except Fault Unit :=
  match endFault lexeme.ending with
  | none => .ok ()
  | some fault => .error fault

theorem scanFrom_length_le (seen : List Piece) (text : List Char) :
    (scanFrom seen text).2.length ≤ text.length := by
  fun_induction scanFrom seen text <;> simp only [List.length_cons, List.length_nil] <;> omega

theorem scan_length_le (text : List Char) : (scan text).2.length ≤ text.length :=
  scanFrom_length_le [] text

end Lexeme

end RouteTemplate.Json
