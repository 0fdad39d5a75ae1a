import RouteTemplate.Decimal
import RouteTemplate.Json.Fault

namespace RouteTemplate.Json

abbrev Digit := Fin 10

def digit? (c : Char) : Option Digit :=
  if h : 48 ≤ c.toNat ∧ c.toNat ≤ 57 then some ⟨c.toNat - 48, by omega⟩ else none

def natOfDigits (digits : List Digit) : Nat :=
  digits.foldl (fun value digit => value * 10 + digit.val) 0

def takeDigits : List Char → List Digit × List Char
  | [] => ([], [])
  | c :: rest =>
    match digit? c with
    | some digit =>
      let (digits, rest) := takeDigits rest
      (digit :: digits, rest)
    | none => ([], c :: rest)

def requireDigits (text : List Char) : Except Fault (List Digit) × List Char :=
  match takeDigits text with
  | ([], []) => (.error .valueCutOff, [])
  | ([], rest) => (.error .badNumber, rest)
  | (digits, rest) => (.ok digits, rest)

structure Numeral where
  negative : Bool
  whole : List Digit
  fraction : List Digit
  exponent : Option Int
  deriving DecidableEq, Repr

namespace Numeral

def scanFraction : List Char → Except Fault (List Digit) × List Char
  | '.' :: rest => requireDigits rest
  | rest => (.ok [], rest)

def scanSign : List Char → Bool × List Char
  | '-' :: rest => (true, rest)
  | '+' :: rest => (false, rest)
  | rest => (false, rest)

def scanExponent : List Char → Except Fault (Option Int) × List Char
  | [] => (.ok none, [])
  | c :: rest =>
    if c = 'e' ∨ c = 'E' then
      match requireDigits (scanSign rest).2 with
      | (.ok digits, after) =>
        let size : Int := natOfDigits digits
        (.ok (some (if (scanSign rest).1 then -size else size)), after)
      | (.error fault, after) => (.error fault, after)
    else (.ok none, c :: rest)

def scanFrom (negative : Bool) (first : Digit) (text : List Char) :
    Except Fault Numeral × List Char :=
  match takeDigits text with
  | (more, rest) =>
    if first = 0 ∧ more ≠ [] then (.error .badNumber, rest)
    else
      match scanFraction rest with
      | (.error fault, rest) => (.error fault, rest)
      | (.ok fraction, rest) =>
        match scanExponent rest with
        | (.error fault, rest) => (.error fault, rest)
        | (.ok exponent, rest) => (.ok ⟨negative, first :: more, fraction, exponent⟩, rest)

def scanNegative : List Char → Except Fault Numeral × List Char
  | [] => (.error .valueCutOff, [])
  | c :: rest =>
    match digit? c with
    | some first => scanFrom true first rest
    | none => (.error .badNumber, rest)

end Numeral

theorem takeDigits_length_le (text : List Char) :
    (takeDigits text).2.length ≤ text.length := by
  fun_induction takeDigits text <;> grind

theorem requireDigits_length_le (text : List Char) :
    (requireDigits text).2.length ≤ text.length := by
  have := takeDigits_length_le text
  grind [requireDigits]

namespace Numeral

theorem scanFraction_length_le (text : List Char) :
    (scanFraction text).2.length ≤ text.length := by
  fun_cases scanFraction text with
  | case1 rest => exact Nat.le_succ_of_le (requireDigits_length_le rest)
  | case2 => exact Nat.le_refl _

theorem scanSign_length_le (text : List Char) : (scanSign text).2.length ≤ text.length := by
  fun_cases scanSign text <;> simp

theorem scanExponent_length_le (text : List Char) :
    (scanExponent text).2.length ≤ text.length := by
  cases text with
  | nil => simp [scanExponent]
  | cons c rest =>
    have := requireDigits_length_le (scanSign rest).2
    have := scanSign_length_le rest
    grind [scanExponent]

theorem scanFrom_length_le (negative : Bool) (first : Digit) (text : List Char) :
    (scanFrom negative first text).2.length ≤ text.length := by
  have := takeDigits_length_le text
  have := scanFraction_length_le (takeDigits text).2
  have := scanExponent_length_le (scanFraction (takeDigits text).2).2
  grind [scanFrom]

theorem scanNegative_length_le (text : List Char) :
    (scanNegative text).2.length ≤ text.length := by
  cases text with
  | nil => simp [scanNegative]
  | cons c rest =>
    have (first : Digit) := scanFrom_length_le true first rest
    grind [scanNegative]

end Numeral

inductive Quantity where
  | integer (value : Int)
  | float (value : Float)

namespace Quantity

def text : Quantity → String
  | integer value => toString value
  | float value => floatText value

end Quantity

/-- Takes in digits as long as the number stays below `2 ^ 64`, and gives back those left over. -/
def takeSignificand (value : Nat) : List Digit → Nat × List Digit
  | [] => (value, [])
  | digit :: digits =>
    if value * 10 + digit.val < 2 ^ 64 then takeSignificand (value * 10 + digit.val) digits
    else (value, digit :: digits)

/-- The float times a power of ten, or nothing if that is too large. Powers below `10 ^ -308` are
taken in several divisions. -/
def scaleByTen (value : Float) (exponent : Int) : Option Float :=
  let power (size : Int) := Float.ofScientific 1 false size.toNat
  if 308 < exponent then
    if value == 0 then some value else none
  else if 0 ≤ exponent then
    let scaled := value * power exponent
    if scaled.isInf then none else some scaled
  else if -308 ≤ exponent then some (value / power (-exponent))
  else if value == 0 then some value
  else scaleByTen (value / power 308) (exponent + 308)
termination_by (-exponent).toNat

namespace Numeral

def quantity (numeral : Numeral) : Except Fault Quantity :=
  let (whole, beyond) := takeSignificand 0 numeral.whole
  let signed (value : Float) := if numeral.negative then -value else value
  if numeral.fraction = [] ∧ numeral.exponent = none ∧ beyond = [] then
    if !numeral.negative then .ok (.integer whole)
    else if 0 < whole ∧ whole ≤ Nat.pow 2 63 then .ok (.integer (-whole))
    else .ok (.float (signed whole.toUInt64.toFloat))
  else
    let (significand, dropped) := takeSignificand whole numeral.fraction
    let places : Int := numeral.fraction.length - dropped.length
    match scaleByTen significand.toUInt64.toFloat
        (beyond.length - places + numeral.exponent.getD 0) with
    | some value => .ok (.float (signed value))
    | none => .error .numberOutOfRange

end Numeral

end RouteTemplate.Json
