import RouteTemplate.Json.Lexeme

/-!
Strings as sequences of UTF-16 units, which is what a JSON text writes: an escape may give any unit,
also half of a surrogate pair. A sequence of units is the value of a string if its surrogates pair
up, and is then the value of one string only. `decode_eq_ok_iff` says that decoding finds it.
-/

namespace RouteTemplate.Json

/-- One unit, or two surrogates for a character beyond the first `2 ^ 16`. -/
def charUnits (c : Char) : List Nat :=
  if c.toNat < 0x10000 then [c.toNat]
  else [0xD800 + (c.toNat - 0x10000) / 0x400, 0xDC00 + (c.toNat - 0x10000) % 0x400]

def units (text : String) : List Nat := text.toList.flatMap charUnits

def Piece.units : Piece → List Nat
  | char c => charUnits c
  | unit code =>
    if Lexeme.isLow code || Lexeme.isHigh code then [code] else charUnits (Char.ofNat code)

def Lexeme.units? (lexeme : Lexeme) : Option (List Nat) :=
  if lexeme.ending = .closed then some (lexeme.pieces.flatMap Piece.units) else none

theorem closed_of_units (lexeme : Lexeme) (units : List Nat) (known : lexeme.units? = some units) :
    lexeme.ending = .closed := by
  rw [Lexeme.units?] at known
  by_cases closed : lexeme.ending = .closed
  · exact closed
  · rw [if_neg closed] at known
    cases known

open Lexeme (isLow isHigh joinSurrogates decodeFrom endFault)

theorem char_scalar (c : Char) : c.toNat < 0xD800 ∨ 0xDFFF < c.toNat ∧ c.toNat < 0x110000 :=
  c.valid

theorem charUnits_cases (c : Char) :
    (∃ code, charUnits c = [code] ∧ code = c.toNat ∧ isLow code = false ∧ isHigh code = false) ∨
      ∃ high low, charUnits c = [high, low] ∧ isHigh high = true ∧ isLow low = true ∧
        c.toNat = 0x10000 + (high - 0xD800) * 0x400 + (low - 0xDC00) := by
  have scalar := char_scalar c
  by_cases basic : c.toNat < 0x10000
  · refine Or.inl ⟨c.toNat, if_pos basic, rfl, ?_, ?_⟩
    · simp only [isLow, Bool.and_eq_false_iff, decide_eq_false_iff_not]
      omega
    · simp only [isHigh, Bool.and_eq_false_iff, decide_eq_false_iff_not]
      omega
  · refine Or.inr ⟨_, _, if_neg basic, ?_, ?_, ?_⟩
    · simp only [isHigh, Bool.and_eq_true, decide_eq_true_eq]
      omega
    · simp only [isLow, Bool.and_eq_true, decide_eq_true_eq]
      omega
    · omega

theorem not_low_of_high (code : Nat) (high : isHigh code = true) : isLow code = false := by
  simp only [isHigh, isLow, Bool.and_eq_true, decide_eq_true_eq, Bool.and_eq_false_iff,
    decide_eq_false_iff_not] at high ⊢
  omega

theorem charUnits_ne_nil (c : Char) : charUnits c ≠ [] := by
  rcases charUnits_cases c with ⟨_, single, _⟩ | ⟨_, _, double, _⟩
  · simp [single]
  · simp [double]

theorem charUnits_append_inj (c d : Char) (cRest dRest : List Nat)
    (same : charUnits c ++ cRest = charUnits d ++ dRest) : c = d ∧ cRest = dRest := by
  rcases charUnits_cases c with
    ⟨code, single, code_eq, _, plain⟩ | ⟨high, low, double, isHigh, _, sum⟩
  · rcases charUnits_cases d with ⟨other, single', other_eq, _, _⟩ | ⟨high, _, double', isHigh, _⟩
    · simp only [single, single', List.singleton_append, List.cons.injEq] at same
      exact ⟨Char.toNat_inj.mp (by omega), same.2⟩
    · simp only [single, double', List.cons_append, List.nil_append, List.cons.injEq] at same
      rw [same.1, isHigh] at plain
      cases plain
  · rcases charUnits_cases d with ⟨other, single', _, _, plain⟩ | ⟨high', low', double', _, _, sum'⟩
    · simp only [double, single', List.cons_append, List.nil_append, List.cons.injEq] at same
      rw [← same.1, isHigh] at plain
      cases plain
    · simp only [double, double', List.cons_append, List.nil_append, List.cons.injEq] at same
      obtain ⟨sameHigh, sameLow, sameRest⟩ := same
      subst sameHigh sameLow
      exact ⟨Char.toNat_inj.mp (by omega), sameRest⟩

theorem charUnits_joinSurrogates (high low : Nat) (isHigh : isHigh high = true)
    (isLow : isLow low = true) : charUnits (joinSurrogates high low) = [high, low] := by
  simp only [Lexeme.isHigh, Lexeme.isLow, Bool.and_eq_true, decide_eq_true_eq] at isHigh isLow
  have valid : Nat.isValidChar (0x10000 + (high - 0xD800) * 0x400 + (low - 0xDC00)) := by
    refine Or.inr ⟨?_, ?_⟩ <;> omega
  have code : (joinSurrogates high low).toNat =
      0x10000 + (high - 0xD800) * 0x400 + (low - 0xDC00) := by
    rw [joinSurrogates, Char.ofNat, dif_pos valid]
    rfl
  rw [charUnits, code, if_neg (by omega)]
  have first : 0xD800 + (0x10000 + (high - 0xD800) * 0x400 + (low - 0xDC00) - 0x10000) / 0x400 =
      high := by omega
  have second : 0xDC00 + (0x10000 + (high - 0xD800) * 0x400 + (low - 0xDC00) - 0x10000) % 0x400 =
      low := by omega
  rw [first, second]

theorem charUnits_ofNat (code : Nat) (small : code < 0x10000) (notLow : isLow code = false)
    (notHigh : isHigh code = false) : charUnits (Char.ofNat code) = [code] := by
  simp only [isHigh, isLow, Bool.and_eq_false_iff, decide_eq_false_iff_not] at notLow notHigh
  have valid : Nat.isValidChar code := by
    simp only [Nat.isValidChar]
    omega
  have same : (Char.ofNat code).toNat = code := by
    rw [Char.ofNat, dif_pos valid]
    rfl
  rw [charUnits, same, if_pos small]

theorem piece_units_unit (code : Nat) (small : code < 0x10000) :
    (Piece.unit code).units = [code] := by
  by_cases surrogate : (isLow code || isHigh code) = true
  · exact if_pos surrogate
  · rw [Piece.units, if_neg surrogate]
    simp only [Bool.or_eq_true, not_or, Bool.not_eq_true] at surrogate
    exact charUnits_ofNat code small surrogate.1 surrogate.2

theorem units_cons_iff (c : Char) (rest : List Nat) (text : List Char) :
    charUnits c ++ rest = text.flatMap charUnits ↔
      ∃ others, text = c :: others ∧ rest = others.flatMap charUnits := by
  constructor
  · intro same
    cases text with
    | nil => exact absurd (List.append_eq_nil_iff.mp same).1 (charUnits_ne_nil c)
    | cons d others =>
      obtain ⟨rfl, sameRest⟩ := charUnits_append_inj c d rest _ same
      exact ⟨others, rfl, sameRest⟩
  · intro split
    obtain ⟨others, rfl, rfl⟩ := split
    rfl

theorem units_injective : Function.Injective units := by
  have general (text other : List Char) (same : text.flatMap charUnits = other.flatMap charUnits) :
      text = other := by
    induction text generalizing other with
    | nil =>
      cases other with
      | nil => rfl
      | cons c others =>
        exact absurd (List.append_eq_nil_iff.mp same.symm).1 (charUnits_ne_nil c)
    | cons c rest ih =>
      obtain ⟨others, rfl, sameRest⟩ := (units_cons_iff c _ other).mp same
      rw [ih others sameRest]
  intro text other same
  exact String.toList_inj.mp (general text.toList other.toList same)

theorem units_not_low (code : Nat) (rest : List Nat) (text : List Char) (low : isLow code = true) :
    code :: rest ≠ text.flatMap charUnits := by
  intro same
  cases text with
  | nil => cases same
  | cons c others =>
    rw [List.flatMap_cons] at same
    rcases charUnits_cases c with ⟨_, single, _, plain, _⟩ | ⟨high, _, double, isHigh, _⟩
    · simp only [single, List.singleton_append, List.cons.injEq] at same
      rw [← same.1, low] at plain
      cases plain
    · simp only [double, List.cons_append, List.cons.injEq] at same
      rw [← same.1] at isHigh
      rw [not_low_of_high code isHigh] at low
      cases low

theorem units_after_high (code : Nat) (rest : List Nat) (text : List Char)
    (high : isHigh code = true) (same : code :: rest = text.flatMap charUnits) :
    ∃ low others, rest = low :: others ∧ isLow low = true := by
  cases text with
  | nil => cases same
  | cons c others =>
    rw [List.flatMap_cons] at same
    rcases charUnits_cases c with ⟨_, single, _, _, plain⟩ | ⟨_, low, double, _, isLow, _⟩
    · simp only [single, List.singleton_append, List.cons.injEq] at same
      rw [← same.1, high] at plain
      cases plain
    · simp only [double, List.cons_append, List.nil_append, List.cons.injEq] at same
      exact ⟨low, _, same.2, isLow⟩

theorem piece_units_low (piece : Piece) (low : Nat) (rest others : List Nat)
    (isLow : isLow low = true) (same : piece.units ++ rest = low :: others) :
    piece = .unit low := by
  have notChar (c : Char) : charUnits c ++ rest ≠ low :: others := by
    intro same
    rcases charUnits_cases c with ⟨_, single, _, plain, _⟩ | ⟨high, _, double, isHigh, _⟩
    · simp only [single, List.singleton_append, List.cons.injEq] at same
      rw [same.1, isLow] at plain
      cases plain
    · simp only [double, List.cons_append, List.cons.injEq] at same
      rw [same.1] at isHigh
      rw [not_low_of_high low isHigh] at isLow
      cases isLow
  cases piece with
  | char c => exact absurd same (notChar c)
  | unit code =>
    rw [Piece.units] at same
    by_cases surrogate : (Lexeme.isLow code || isHigh code) = true
    · rw [if_pos surrogate, List.singleton_append, List.cons.injEq] at same
      rw [same.1]
    · rw [if_neg surrogate] at same
      exact absurd same (notChar _)

theorem pieces_after_high (code : Nat) (pieces : List Piece) (text : List Char)
    (high : isHigh code = true)
    (same : (Piece.unit code :: pieces).flatMap Piece.units = text.flatMap charUnits) :
    ∃ low others, pieces = .unit low :: others ∧ isLow low = true := by
  have single : (Piece.unit code).units = [code] := if_pos (by simp [high])
  rw [List.flatMap_cons, single, List.singleton_append] at same
  obtain ⟨low, rest, sameRest, isLow⟩ := units_after_high code _ text high same
  cases pieces with
  | nil => cases sameRest
  | cons piece others =>
    rw [piece_units_low piece low _ rest isLow sameRest]
    exact ⟨low, others, rfl, isLow⟩

theorem units_read_iff (seen : List Char) (c : Char) (rest : List Nat) (text : String) :
    (∃ others, text = String.ofList ((c :: seen).reverse ++ others) ∧
        rest = others.flatMap charUnits) ↔
      ∃ others, text = String.ofList (seen.reverse ++ others) ∧
        charUnits c ++ rest = others.flatMap charUnits := by
  constructor
  · intro found
    obtain ⟨others, rfl, rfl⟩ := found
    exact ⟨c :: others, by simp, rfl⟩
  · intro found
    obtain ⟨others, rfl, same⟩ := found
    obtain ⟨others, rfl, rfl⟩ := (units_cons_iff c rest others).mp same
    exact ⟨others, by simp, rfl⟩

theorem decodeFrom_eq_ok_iff (seen : List Char) (ending : LexemeEnd) (pieces : List Piece)
    (text : String) :
    decodeFrom seen ending pieces = .ok text ↔
      endFault ending = none ∧ ∃ others, text = String.ofList (seen.reverse ++ others) ∧
        pieces.flatMap Piece.units = others.flatMap charUnits := by
  fun_induction decodeFrom seen ending pieces with
  | case1 seen closed =>
    constructor
    · intro same
      refine ⟨closed, [], ?_, rfl⟩
      rw [List.append_nil]
      exact (Except.ok.inj same).symm
    · intro found
      obtain ⟨_, others, rfl, same⟩ := found
      cases others with
      | nil => rw [List.append_nil]
      | cons c others =>
        exact absurd (List.append_eq_nil_iff.mp same.symm).1 (charUnits_ne_nil c)
  | case2 seen fault ended => simp [ended]
  | case3 seen c pieces ih =>
    rw [ih, units_read_iff]
    rfl
  | case4 seen code pieces low =>
    have single : (Piece.unit code).units = [code] := if_pos (by simp [low])
    refine iff_of_false (by simp) ?_
    intro found
    obtain ⟨_, others, _, same⟩ := found
    rw [List.flatMap_cons, single] at same
    exact units_not_low code _ others low same
  | case5 seen code notLow high low pieces isLow ih =>
    have single : (Piece.unit code).units = [code] := if_pos (by simp [high])
    have singleLow : (Piece.unit low).units = [low] := if_pos (by simp [isLow])
    rw [ih, units_read_iff, charUnits_joinSurrogates code low high isLow, List.flatMap_cons,
      List.flatMap_cons, single, singleLow]
    rfl
  | case6 seen code notLow high low pieces notLowNext =>
    refine iff_of_false (by simp) ?_
    intro found
    obtain ⟨_, text, _, same⟩ := found
    obtain ⟨other, others, next, isLow⟩ := pieces_after_high code _ text high same
    cases next
    exact notLowNext isLow
  | case7 seen code notLow high c pieces =>
    refine iff_of_false (by simp) ?_
    intro found
    obtain ⟨_, text, _, same⟩ := found
    obtain ⟨other, others, next, _⟩ := pieces_after_high code _ text high same
    cases next
  | case8 seen code notLow high =>
    refine iff_of_false (by simp) ?_
    intro found
    obtain ⟨_, text, _, same⟩ := found
    obtain ⟨other, others, next, _⟩ := pieces_after_high code _ text high same
    cases next
  | case9 seen code pieces notLow notHigh ih =>
    have char : (Piece.unit code).units = charUnits (Char.ofNat code) :=
      if_neg (by simp [notLow, notHigh])
    rw [ih, units_read_iff, List.flatMap_cons, char]

theorem endFault_eq_none (ending : LexemeEnd) : endFault ending = none ↔ ending = .closed := by
  cases ending <;> simp [endFault]

theorem decode_eq_ok_iff (lexeme : Lexeme) (text : String) :
    lexeme.decode = .ok text ↔ lexeme.units? = some (units text) := by
  rw [Lexeme.decode, decodeFrom_eq_ok_iff, endFault_eq_none, Lexeme.units?]
  by_cases closed : lexeme.ending = .closed
  · rw [if_pos closed]
    simp only [closed, true_and, List.reverse_nil, List.nil_append, Option.some.injEq, units]
    constructor
    · intro found
      obtain ⟨others, rfl, same⟩ := found
      rw [String.toList_ofList, same]
    · intro same
      exact ⟨text.toList, String.ofList_toList.symm, same⟩
  · simp [closed]

end RouteTemplate.Json
