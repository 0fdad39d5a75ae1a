import RouteTemplate.Proofs.Json.Grammar

namespace RouteTemplate.Json

def NoDigit (rest : List Char) : Prop := ∀ c ∈ rest.head?, digit? c = none

def Delimited (rest : List Char) : Prop :=
  ∀ c ∈ rest.head?, digit? c = none ∧ c ≠ '.' ∧ c ≠ 'e' ∧ c ≠ 'E'

theorem Delimited.noDigit {rest : List Char} (delimited : Delimited rest) : NoDigit rest :=
  fun c first => (delimited c first).1

theorem digit?_digitChar (digit : Digit) : digit? (digitChar digit) = some digit := by
  revert digit
  decide

theorem eq_digitChar (c : Char) (digit : Digit) (known : digit? c = some digit) :
    c = digitChar digit := by
  unfold digit? at known
  split at known
  · cases known
    have code : 48 + (c.toNat - 48) = c.toNat := by omega
    rw [digitChar, code, Char.ofNat_toNat]
  · cases known

theorem digitChar_ne (digit : Digit) (c : Char) (other : digit? c = none) :
    digitChar digit ≠ c := by
  intro same
  rw [← same, digit?_digitChar] at other
  cases other

theorem takeDigits_sound (text : List Char) :
    text = digitText (takeDigits text).1 ++ (takeDigits text).2 ∧ NoDigit (takeDigits text).2 := by
  induction text with
  | nil => exact ⟨rfl, by simp [takeDigits, NoDigit]⟩
  | cons c rest ih =>
    cases known : digit? c with
    | none => simp [takeDigits, known, digitText, NoDigit]
    | some digit =>
      have here := eq_digitChar c digit known
      simp only [takeDigits, known]
      refine ⟨?_, ih.2⟩
      rw [here]
      exact congrArg (digitChar digit :: ·) ih.1

theorem takeDigits_complete (digits : List Digit) (rest : List Char) (ended : NoDigit rest) :
    takeDigits (digitText digits ++ rest) = (digits, rest) := by
  induction digits with
  | nil =>
    cases rest with
    | nil => rfl
    | cons c rest =>
      have known := ended c rfl
      simp [digitText, takeDigits, known]
  | cons digit digits ih =>
    have split : digitText (digit :: digits) ++ rest =
        digitChar digit :: (digitText digits ++ rest) := rfl
    rw [split, takeDigits, digit?_digitChar]
    simp only [ih]

theorem requireDigits_sound (text rest : List Char) (digits : List Digit)
    (found : requireDigits text = (.ok digits, rest)) :
    digits ≠ [] ∧ text = digitText digits ++ rest := by
  have sound := (takeDigits_sound text).1
  unfold requireDigits at found
  split at found
  · cases found
  · cases found
  · rename_i taken _ nonempty same
    cases found
    rw [same] at sound
    exact ⟨nonempty, sound⟩

theorem requireDigits_complete (digits : List Digit) (given : digits ≠ []) (rest : List Char)
    (ended : NoDigit rest) : requireDigits (digitText digits ++ rest) = (.ok digits, rest) := by
  obtain ⟨first, more, rfl⟩ := List.exists_cons_of_ne_nil given
  simp [requireDigits, takeDigits_complete _ rest ended]

namespace Numeral

theorem scanFraction_sound (text rest : List Char) (fraction : List Digit)
    (found : scanFraction text = (.ok fraction, rest)) :
    ∃ point, text = point ++ rest ∧ SpellsFraction fraction point := by
  unfold scanFraction at found
  split at found
  · obtain ⟨given, rfl⟩ := requireDigits_sound _ _ _ found
    exact ⟨'.' :: digitText fraction, rfl, .present fraction given⟩
  · cases found
    exact ⟨[], rfl, .absent⟩

theorem scanFraction_complete (fraction : List Digit) (point rest : List Char)
    (spelled : SpellsFraction fraction point) (ended : NoDigit rest)
    (noPoint : '.' ∉ rest.head?) : scanFraction (point ++ rest) = (.ok fraction, rest) := by
  cases spelled with
  | absent =>
    rw [List.nil_append]
    unfold scanFraction
    split
    · simp at noPoint
    · rfl
  | present digits given => exact requireDigits_complete _ given rest ended

theorem scanSign_sound (text : List Char) :
    ∃ sign, text = sign ++ (scanSign text).2 ∧ SpellsSign (scanSign text).1 sign := by
  unfold scanSign
  split
  · exact ⟨['-'], rfl, .minus⟩
  · exact ⟨['+'], rfl, .plus⟩
  · exact ⟨[], rfl, .none⟩

theorem scanSign_complete (negative : Bool) (sign : List Char) (digits : List Digit)
    (given : digits ≠ []) (rest : List Char) (signed : SpellsSign negative sign) :
    scanSign (sign ++ (digitText digits ++ rest)) = (negative, digitText digits ++ rest) := by
  cases signed with
  | none =>
    obtain ⟨first, more, rfl⟩ := List.exists_cons_of_ne_nil given
    have whole : digitText (first :: more) ++ rest =
        digitChar first :: (digitText more ++ rest) := rfl
    rw [List.nil_append, whole, scanSign]
    · intro others same
      exact digitChar_ne first '-' (by decide) (List.cons.inj same).1
    · intro others same
      exact digitChar_ne first '+' (by decide) (List.cons.inj same).1
  | plus => rfl
  | minus => rfl

theorem scanExponent_sound (text rest : List Char) (exponent : Option Int)
    (found : scanExponent text = (.ok exponent, rest)) :
    ∃ power, text = power ++ rest ∧ SpellsExponent exponent power := by
  cases text with
  | nil =>
    cases found
    exact ⟨[], rfl, .absent⟩
  | cons c text =>
    rw [scanExponent] at found
    split at found
    · rename_i mark
      split at found
      · rename_i digits after taken
        cases found
        obtain ⟨given, split⟩ := requireDigits_sound _ _ _ taken
        obtain ⟨sign, whole, signed⟩ := scanSign_sound text
        rw [split] at whole
        refine ⟨_, ?_, .present c mark _ sign signed digits given⟩
        rw [whole, List.append_assoc]
        rfl
      · cases found
    · cases found
      exact ⟨[], rfl, .absent⟩

theorem scanExponent_complete (exponent : Option Int) (power rest : List Char)
    (spelled : SpellsExponent exponent power) (delimited : Delimited rest) :
    scanExponent (power ++ rest) = (.ok exponent, rest) := by
  cases spelled with
  | absent =>
    cases rest with
    | nil => rfl
    | cons c rest =>
      obtain ⟨_, _, notSmall, notLarge⟩ := delimited c rfl
      simp [scanExponent, notSmall, notLarge]
  | present mark isMark negative sign signed digits given =>
    have whole : mark :: (sign ++ digitText digits) ++ rest =
        mark :: (sign ++ (digitText digits ++ rest)) := by simp
    rw [List.cons_append, whole, scanExponent, if_pos isMark,
      scanSign_complete negative sign digits given rest signed]
    simp only [requireDigits_complete digits given rest delimited.noDigit]

theorem scanFrom_sound (negative : Bool) (first : Digit) (text rest : List Char)
    (numeral : Numeral) (found : scanFrom negative first text = (.ok numeral, rest)) :
    ∃ more, text = more ++ rest ∧
      SpellsNumber numeral ((if negative then ['-'] else []) ++ digitChar first :: more) := by
  obtain ⟨split, _⟩ := takeDigits_sound text
  unfold scanFrom at found
  split at found
  rename_i more afterDigits taken
  rw [taken] at split
  split at found
  · cases found
  · rename_i leading
    split at found
    · cases found
    · rename_i fraction afterPoint fractional
      obtain ⟨point, splitPoint, spelledPoint⟩ := scanFraction_sound _ _ _ fractional
      split at found
      · cases found
      · rename_i exponent afterPower scaled
        cases found
        obtain ⟨power, splitPower, spelledPower⟩ := scanExponent_sound _ _ _ scaled
        refine ⟨digitText more ++ point ++ power, ?_, ?_⟩
        · rw [split, splitPoint, splitPower]
          simp
        · have zero : first = 0 → more = [] := by
            intro isZero
            exact Decidable.of_not_not fun nonempty => leading ⟨isZero, nonempty⟩
          have spelled := SpellsNumber.intro negative first more zero spelledPoint spelledPower
          simpa [digitText] using spelled

theorem noDigit_power (exponent : Option Int) (power rest : List Char)
    (scaled : SpellsExponent exponent power) (delimited : Delimited rest) :
    NoDigit (power ++ rest) ∧ '.' ∉ (power ++ rest).head? := by
  cases scaled with
  | absent =>
    refine ⟨delimited.noDigit, ?_⟩
    intro point
    exact (delimited '.' point).2.1 rfl
  | present mark isMark =>
    rcases isMark with rfl | rfl <;> simp [NoDigit] <;> decide

theorem noDigit_point (fraction : List Digit) (point rest : List Char)
    (fractional : SpellsFraction fraction point) (ended : NoDigit rest) :
    NoDigit (point ++ rest) := by
  cases fractional with
  | absent => exact ended
  | present digits given =>
    intro c first
    cases first
    decide

theorem scanFrom_complete (negative : Bool) (first : Digit) (more : List Digit)
    (leading : first = 0 → more = []) (fraction : List Digit) (exponent : Option Int)
    (point power rest : List Char) (fractional : SpellsFraction fraction point)
    (scaled : SpellsExponent exponent power) (delimited : Delimited rest) :
    scanFrom negative first (digitText more ++ (point ++ (power ++ rest))) =
      (.ok ⟨negative, first :: more, fraction, exponent⟩, rest) := by
  obtain ⟨ended, noPoint⟩ := noDigit_power exponent power rest scaled delimited
  have allowed : ¬ (first = 0 ∧ more ≠ []) := fun zero => zero.2 (leading zero.1)
  unfold scanFrom
  rw [takeDigits_complete more _ (noDigit_point fraction point _ fractional ended)]
  simp only [if_neg allowed, scanFraction_complete fraction point _ fractional ended noPoint,
    scanExponent_complete exponent power rest scaled delimited]

end Numeral

end RouteTemplate.Json
