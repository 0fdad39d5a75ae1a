import RouteTemplate.Json.Token
import RouteTemplate.Proofs.Json.Units

/-!
JSON as a grammar. `Spells` relates a value to the texts that write it, and `Padded` is the same
with white space around the text, which a document may have. The grammar knows nothing of reading:
it has no order of events, no depth and no errors.

The value of a string is a sequence of UTF-16 units, and the value of an object is the list of its
members as they are written, so that a key may occur more than once.
-/

namespace RouteTemplate.Json

inductive Datum where
  | null
  | boolean (value : Bool)
  | number (numeral : Numeral)
  | text (units : List Nat)
  | list (items : List Datum)
  | object (members : List (List Nat × Datum))

def Datum.string (text : String) : Datum := .text (units text)

inductive SpellsUnits : List Nat → List Char → Prop where
  | plain (c : Char) (visible : 0x20 ≤ c.toNat) (noQuote : c ≠ '"') (noEscape : c ≠ '\\') :
    SpellsUnits (charUnits c) [c]
  | letter (c mark : Char) (short : shortEscape? mark = some c) :
    SpellsUnits (charUnits c) ['\\', mark]
  | digits (code : Nat) (a b c d : Char) (known : unit? a b c d = some code) :
    SpellsUnits [code] ['\\', 'u', a, b, c, d]

inductive SpellsString : List Nat → List Char → Prop where
  | nil : SpellsString [] []
  | cons {first others : List Nat} {text rest : List Char} (here : SpellsUnits first text)
    (there : SpellsString others rest) : SpellsString (first ++ others) (text ++ rest)

def digitChar (digit : Digit) : Char := Char.ofNat (48 + digit.val)

def digitText (digits : List Digit) : List Char := digits.map digitChar

inductive SpellsFraction : List Digit → List Char → Prop where
  | absent : SpellsFraction [] []
  | present (digits : List Digit) (given : digits ≠ []) :
    SpellsFraction digits ('.' :: digitText digits)

inductive SpellsSign : Bool → List Char → Prop where
  | none : SpellsSign false []
  | plus : SpellsSign false ['+']
  | minus : SpellsSign true ['-']

inductive SpellsExponent : Option Int → List Char → Prop where
  | absent : SpellsExponent none []
  | present (mark : Char) (isMark : mark = 'e' ∨ mark = 'E') (negative : Bool) (sign : List Char)
    (signed : SpellsSign negative sign) (digits : List Digit) (given : digits ≠ []) :
    SpellsExponent (some (if negative then -(natOfDigits digits : Int) else natOfDigits digits))
      (mark :: sign ++ digitText digits)

/-- A zero stands in front of the point by itself only. -/
inductive SpellsNumber : Numeral → List Char → Prop where
  | intro (negative : Bool) (first : Digit) (more : List Digit) (leading : first = 0 → more = [])
    {fraction : List Digit} {exponent : Option Int} {point power : List Char}
    (fractional : SpellsFraction fraction point) (scaled : SpellsExponent exponent power) :
    SpellsNumber ⟨negative, first :: more, fraction, exponent⟩
      ((if negative then ['-'] else []) ++ digitText (first :: more) ++ point ++ power)

def Spaces (text : List Char) : Prop := ∀ c ∈ text, isSpace c = true

instance (text : List Char) : Decidable (Spaces text) :=
  decidable_of_iff (text.all isSpace = true) List.all_eq_true

mutual

inductive Spells : Datum → List Char → Prop where
  | null : Spells .null ['n', 'u', 'l', 'l']
  | false : Spells (.boolean false) ['f', 'a', 'l', 's', 'e']
  | true : Spells (.boolean true) ['t', 'r', 'u', 'e']
  | number {numeral : Numeral} {text : List Char} (spelled : SpellsNumber numeral text) :
    Spells (.number numeral) text
  | text {units : List Nat} {text : List Char} (spelled : SpellsString units text) :
    Spells (.text units) ('"' :: text ++ ['"'])
  | noItems {spaces : List Char} (blank : Spaces spaces) :
    Spells (.list []) ('[' :: spaces ++ [']'])
  | items {items : List Datum} {text : List Char} (spelled : SpellsItems items text) :
    Spells (.list items) ('[' :: text ++ [']'])
  | noMembers {spaces : List Char} (blank : Spaces spaces) :
    Spells (.object []) ('\x7b' :: spaces ++ ['\x7d'])
  | members {members : List (List Nat × Datum)} {text : List Char}
    (spelled : SpellsMembers members text) :
    Spells (.object members) ('\x7b' :: text ++ ['\x7d'])

inductive Padded : Datum → List Char → Prop where
  | intro {datum : Datum} {before text after : List Char} (blankBefore : Spaces before)
    (spelled : Spells datum text) (blankAfter : Spaces after) :
    Padded datum (before ++ text ++ after)

inductive SpellsItems : List Datum → List Char → Prop where
  | last {item : Datum} {text : List Char} (padded : Padded item text) : SpellsItems [item] text
  | more {item : Datum} {others : List Datum} {text rest : List Char} (padded : Padded item text)
    (following : SpellsItems others rest) : SpellsItems (item :: others) (text ++ ',' :: rest)

inductive SpellsMember : List Nat × Datum → List Char → Prop where
  | intro {key : List Nat} {datum : Datum} {before name after text : List Char}
    (blankBefore : Spaces before) (named : SpellsString key name) (blankAfter : Spaces after)
    (padded : Padded datum text) :
    SpellsMember (key, datum) (before ++ '"' :: name ++ '"' :: after ++ ':' :: text)

inductive SpellsMembers : List (List Nat × Datum) → List Char → Prop where
  | last {member : List Nat × Datum} {text : List Char} (spelled : SpellsMember member text) :
    SpellsMembers [member] text
  | more {member : List Nat × Datum} {others : List (List Nat × Datum)} {text rest : List Char}
    (spelled : SpellsMember member text) (following : SpellsMembers others rest) :
    SpellsMembers (member :: others) (text ++ ',' :: rest)

end

theorem Spells.padded {datum : Datum} {text : List Char} (spelled : Spells datum text) :
    Padded datum text := by
  have blank : Spaces [] := fun c member => absurd member List.not_mem_nil
  have padded := Padded.intro blank spelled blank
  rwa [List.append_nil] at padded

end RouteTemplate.Json
