namespace RouteTemplate

/-- The number `digits * 10 ^ exponent`. -/
structure Decimal where
  digits : Nat
  exponent : Int
  deriving DecidableEq, Repr

/-- The number `mantissa * 2 ^ exponent` and the gaps to its neighbours: the number above is
`2 ^ exponent` away, and the one below half of that if `narrowBelow` is set. -/
structure Binary where
  mantissa : Nat
  exponent : Int
  narrowBelow : Bool
  deriving DecidableEq, Repr

namespace Binary

/-- The number behind the bits of a finite 64-bit float, its sign left out. -/
def ofBits (bits : UInt64) : Binary :=
  let fraction : Nat := bits.toNat % Nat.pow 2 52
  let biased : Nat := bits.toNat / Nat.pow 2 52 % Nat.pow 2 11
  if biased = 0 then ⟨fraction, -1074, false⟩
  else ⟨Nat.pow 2 52 + fraction, biased - 1075, fraction == 0 && biased != 1⟩

/-- The number times `4 * 10 ^ places`, over `denominator`. Four times the mantissa, because the
ends of the interval are quarters of the gap. -/
def scaled (quarters : Nat) (exponent places : Int) : Nat :=
  quarters * Nat.pow 2 (exponent - 2).toNat * Nat.pow 10 places.toNat

def denominator (exponent places : Int) : Nat :=
  Nat.pow 2 (2 - exponent).toNat * Nat.pow 10 (-places).toNat

/-- How many digits the number has before the point; negative where zeros follow the point. -/
def magnitude (number : Binary) : Int :=
  let places := 400
  let whole := scaled (4 * number.mantissa) number.exponent places /
    denominator number.exponent places
  (Nat.toDigits 10 whole).length - places

def withDigits? (number : Binary) (count : Nat) : Option Decimal :=
  let places := count - number.magnitude
  let size (quarters : Nat) := scaled quarters number.exponent places
  let unit := denominator number.exponent places
  let value := size (4 * number.mantissa)
  let low := size (4 * number.mantissa - if number.narrowBelow then 1 else 2)
  let high := size (4 * number.mantissa + 2)
  let readsBack (digits : Nat) : Bool :=
    if number.mantissa % 2 = 0 then low ≤ digits * unit && digits * unit ≤ high
    else low < digits * unit && digits * unit < high
  let below := value / unit
  let above := below + 1
  let nearer :=
    if 2 * (value % unit) < unit then below
    else if 2 * (value % unit) > unit then above
    else if below % 2 = 0 then below else above
  match readsBack below, readsBack above with
  | true, true => some ⟨nearer, -places⟩
  | true, false => some ⟨below, -places⟩
  | false, true => some ⟨above, -places⟩
  | false, false => none

/-- Seventeen digits always read back. -/
def shortest (number : Binary) : Decimal :=
  ((List.range 17).findSome? fun count => number.withDigits? (count + 1)).getD ⟨0, 0⟩

end Binary

namespace Decimal

def dropZeros : Nat → Decimal → Decimal
  | 0, decimal => decimal
  | count + 1, decimal =>
    if decimal.digits % 10 = 0 then dropZeros count ⟨decimal.digits / 10, decimal.exponent + 1⟩
    else decimal

def powerOfTen (exponent : Int) : List Char :=
  'e' :: (if exponent < 0 then '-' else '+') :: Nat.toDigits 10 exponent.natAbs

def text (decimal : Decimal) : String :=
  let decimal := decimal.dropZeros 17
  let digits := Nat.toDigits 10 decimal.digits
  let zeros (count : Int) := List.replicate count.toNat '0'
  let point := digits.length + decimal.exponent
  String.ofList <|
    if 0 ≤ decimal.exponent ∧ point ≤ 16 then digits ++ zeros decimal.exponent ++ ['.', '0']
    else if 0 < point ∧ point ≤ 16 then
      digits.take point.toNat ++ '.' :: digits.drop point.toNat
    else if -5 < point ∧ point ≤ 0 then '0' :: '.' :: zeros (-point) ++ digits
    else
      let fraction := match digits.drop 1 with
        | [] => []
        | rest => '.' :: rest
      digits.take 1 ++ fraction ++ powerOfTen (point - 1)

end Decimal

def floatText (value : Float) : String :=
  let bits := value.toBits
  let sign := if bits.toNat / Nat.pow 2 63 = 0 then "" else "-"
  let number := Binary.ofBits bits
  sign ++ if number.mantissa = 0 then "0.0" else number.shortest.text

end RouteTemplate
