import RouteTemplate.Proofs.Json.Grammar

namespace RouteTemplate.Json

theorem hexValue?_lt (c : Char) (value : Nat) (known : hexValue? c = some value) : value < 16 := by
  have digits : ('0' : Char).toNat = 48 ∧ ('9' : Char).toNat = 57 := by decide
  have lower : ('a' : Char).toNat = 97 ∧ ('f' : Char).toNat = 102 := by decide
  have upper : ('A' : Char).toNat = 65 ∧ ('F' : Char).toNat = 70 := by decide
  simp only [hexValue?, Char.le_def, UInt32.le_iff_toNat_le, Char.toNat_val] at known
  split at known
  · cases known
    omega
  · split at known
    · cases known
      omega
    · split at known
      · cases known
        omega
      · cases known

theorem unit?_lt (a b c d : Char) (code : Nat) (known : unit? a b c d = some code) :
    code < 0x10000 := by
  simp only [unit?, Option.bind_eq_bind, Option.bind_eq_some_iff, Option.pure_def,
    Option.some.injEq] at known
  obtain ⟨first, knownFirst, second, knownSecond, third, knownThird, fourth, knownFourth, rfl⟩ :=
    known
  have := hexValue?_lt a first knownFirst
  have := hexValue?_lt b second knownSecond
  have := hexValue?_lt c third knownThird
  have := hexValue?_lt d fourth knownFourth
  omega

namespace Lexeme

theorem sound_piece (seen : List Piece) (piece : Piece) (lexeme : Lexeme)
    (spelled text rest : List Char) (spells : SpellsUnits piece.units spelled)
    (found : ∃ pieces body, lexeme.pieces = (piece :: seen).reverse ++ pieces ∧
      text = body ++ '"' :: rest ∧ SpellsString (pieces.flatMap Piece.units) body) :
    ∃ pieces body, lexeme.pieces = seen.reverse ++ pieces ∧
      spelled ++ text = body ++ '"' :: rest ∧ SpellsString (pieces.flatMap Piece.units) body := by
  obtain ⟨pieces, body, same, rfl, spellsRest⟩ := found
  refine ⟨piece :: pieces, spelled ++ body, ?_, ?_, ?_⟩
  · rw [same, List.reverse_cons, List.append_assoc]
    rfl
  · rw [List.append_assoc]
  · exact .cons spells spellsRest

theorem scanFrom_sound (seen : List Piece) (text : List Char)
    (closed : (scanFrom seen text).1.ending = .closed) :
    ∃ pieces body, (scanFrom seen text).1.pieces = seen.reverse ++ pieces ∧
      text = body ++ '"' :: (scanFrom seen text).2 ∧
      SpellsString (pieces.flatMap Piece.units) body := by
  fun_induction scanFrom seen text with
  | case1 seen => cases closed
  | case2 seen rest => exact ⟨[], [], by simp, rfl, .nil⟩
  | case3 seen a b c d rest code known ih =>
    have spells : SpellsUnits (Piece.unit code).units ['\\', 'u', a, b, c, d] := by
      rw [piece_units_unit code (unit?_lt a b c d code known)]
      exact .digits code a b c d known
    exact sound_piece seen (.unit code) _ _ rest _ spells (ih closed)
  | case4 seen a b c d rest unknown => cases closed
  | case5 seen rest short =>
    simp only [missingDigits] at closed
    split at closed <;> cases closed
  | case6 seen mark rest _ _ c short ih =>
    exact sound_piece seen (.char c) _ _ rest _ (.letter c mark short) (ih closed)
  | case7 seen mark rest _ unknown => cases closed
  | case8 seen => cases closed
  | case9 seen c rest _ _ _ control => cases closed
  | case10 seen c rest noQuote _ _ noEscape noLastEscape visible ih =>
    have ordinary : c ≠ '\\' := by
      intro escape
      cases rest with
      | nil => exact noLastEscape escape rfl
      | cons d rest => exact noEscape d rest escape rfl
    exact sound_piece seen (.char c) _ [c] rest _
      (.plain c (Nat.not_lt.mp visible) noQuote ordinary) (ih closed)

theorem scanFrom_piece (units : List Nat) (spelled : List Char)
    (spells : SpellsUnits units spelled) :
    ∃ piece : Piece, piece.units = units ∧
      ∀ seen rest, scanFrom seen (spelled ++ rest) = scanFrom (piece :: seen) rest := by
  cases spells with
  | plain c visible noQuote noEscape =>
    refine ⟨.char c, rfl, ?_⟩
    intro seen rest
    rw [List.singleton_append, scanFrom, if_neg (Nat.not_lt.mpr visible)] <;>
      simp [noQuote, noEscape]
  | letter c mark short =>
    have noUnit : mark ≠ 'u' := by
      intro unit
      rw [unit] at short
      cases short
    refine ⟨.char c, rfl, ?_⟩
    intro seen rest
    rw [List.cons_append, List.singleton_append, scanFrom, short] <;> simp [noUnit]
  | digits code a b c d known =>
    refine ⟨.unit code, piece_units_unit code (unit?_lt a b c d code known), ?_⟩
    intro seen rest
    simp only [List.cons_append, List.nil_append, scanFrom, known]

theorem scanFrom_complete (units : List Nat) (body : List Char) (spells : SpellsString units body) :
    ∃ pieces : List Piece, pieces.flatMap Piece.units = units ∧
      ∀ seen rest,
        scanFrom seen (body ++ '"' :: rest) = (⟨seen.reverse ++ pieces, .closed⟩, rest) := by
  induction spells with
  | nil => exact ⟨[], rfl, fun seen rest => by simp [scanFrom]⟩
  | cons here there ih =>
    obtain ⟨piece, rfl, scanned⟩ := scanFrom_piece _ _ here
    obtain ⟨pieces, rfl, ended⟩ := ih
    refine ⟨piece :: pieces, rfl, ?_⟩
    intro seen rest
    rw [List.append_assoc, scanned, ended, List.reverse_cons, List.append_assoc]
    rfl

end Lexeme

end RouteTemplate.Json
