import RouteTemplate.Json.Lexeme
import RouteTemplate.Json.Numeral

/-!
The tokens of a JSON text. A string, number or word that is not well formed is a token too and
keeps what is wrong with it, since only its reader can say whether that matters. What is read of a
text depends on its tokens alone, so the white space between them never does.
-/

namespace RouteTemplate.Json

inductive Word where
  | null
  | false
  | true
  deriving DecidableEq, Repr

inductive Token where
  | openList
  | closeList
  | openObject
  | closeObject
  | comma
  | colon
  | word (word : Except Fault Word)
  | number (number : Except Fault Numeral)
  | text (lexeme : Lexeme)
  | stray
  deriving Repr

def isSpace (c : Char) : Bool := c == ' ' || c == '\t' || c == '\n' || c == '\r'

def scanWord (word : Word) : List Char → List Char → Except Fault Word × List Char
  | [], rest => (.ok word, rest)
  | _ :: _, [] => (.error .valueCutOff, [])
  | letter :: letters, c :: rest =>
    if c = letter then scanWord word letters rest else (.error .wordExpected, rest)

theorem scanWord_length_le (word : Word) (letters text : List Char) :
    (scanWord word letters text).2.length ≤ text.length := by
  fun_induction scanWord word letters text <;> grind

namespace Token

def scanOne (c : Char) (rest : List Char) : Token × List Char :=
  match c with
  | '[' => (openList, rest)
  | ']' => (closeList, rest)
  | '\x7b' => (openObject, rest)
  | '\x7d' => (closeObject, rest)
  | ',' => (comma, rest)
  | ':' => (colon, rest)
  | '"' => let (lexeme, rest) := Lexeme.scan rest; (text lexeme, rest)
  | 'n' => let (found, rest) := scanWord .null ['u', 'l', 'l'] rest; (word found, rest)
  | 't' => let (found, rest) := scanWord .true ['r', 'u', 'e'] rest; (word found, rest)
  | 'f' => let (found, rest) := scanWord .false ['a', 'l', 's', 'e'] rest; (word found, rest)
  | '-' => let (found, rest) := Numeral.scanNegative rest; (number found, rest)
  | c =>
    match digit? c with
    | some first => let (found, rest) := Numeral.scanFrom false first rest; (number found, rest)
    | none => (stray, rest)

theorem scanOne_length_le (c : Char) (rest : List Char) :
    (scanOne c rest).2.length ≤ rest.length := by
  have := Lexeme.scan_length_le rest
  have := Numeral.scanNegative_length_le rest
  have (negative : Bool) (first : Digit) := Numeral.scanFrom_length_le negative first rest
  have (word : Word) (letters : List Char) := scanWord_length_le word letters rest
  unfold scanOne
  split <;> grind

def scanFrom (seen : List Token) : List Char → List Token
  | [] => seen.reverse
  | c :: rest =>
    if isSpace c then scanFrom seen rest
    else
      have := scanOne_length_le c rest
      scanFrom ((scanOne c rest).1 :: seen) (scanOne c rest).2
termination_by text => text.length

def scan (text : List Char) : List Token := scanFrom [] text

end Token

end RouteTemplate.Json
