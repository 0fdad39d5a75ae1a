import RouteTemplate.Proofs.Json.Lexemes
import RouteTemplate.Proofs.Json.Numerals

namespace RouteTemplate.Json

def Token.Sound : Token → Prop
  | .stray => False
  | .word found => ∃ value, found = .ok value
  | .number found => ∃ numeral, found = .ok numeral
  | .text lexeme => lexeme.ending = .closed
  | _ => True

inductive SpellsToken : Token → List Char → Prop where
  | openList : SpellsToken .openList ['[']
  | closeList : SpellsToken .closeList [']']
  | openObject : SpellsToken .openObject ['\x7b']
  | closeObject : SpellsToken .closeObject ['\x7d']
  | comma : SpellsToken .comma [',']
  | colon : SpellsToken .colon [':']
  | null : SpellsToken (.word (.ok .null)) ['n', 'u', 'l', 'l']
  | true : SpellsToken (.word (.ok .true)) ['t', 'r', 'u', 'e']
  | false : SpellsToken (.word (.ok .false)) ['f', 'a', 'l', 's', 'e']
  | number {numeral : Numeral} {text : List Char} (spelled : SpellsNumber numeral text) :
    SpellsToken (.number (.ok numeral)) text
  | text {lexeme : Lexeme} {units : List Nat} {body : List Char}
    (known : lexeme.units? = some units) (spelled : SpellsString units body) :
    SpellsToken (.text lexeme) ('"' :: body ++ ['"'])

theorem scanWord_sound (word found : Word) (letters text rest : List Char)
    (scanned : scanWord word letters text = (.ok found, rest)) :
    found = word ∧ text = letters ++ rest := by
  fun_induction scanWord word letters text with
  | case1 rest =>
    cases scanned
    exact ⟨rfl, rfl⟩
  | case2 => cases scanned
  | case3 letter letters rest ih =>
    obtain ⟨same, rfl⟩ := ih scanned
    exact ⟨same, rfl⟩
  | case4 => cases scanned

theorem scanWord_complete (word : Word) (letters rest : List Char) :
    scanWord word letters (letters ++ rest) = (.ok word, rest) := by
  induction letters with
  | nil => cases rest <;> rfl
  | cons letter letters ih => rw [List.cons_append, scanWord, if_pos rfl, ih]

theorem lexeme_scan_sound (text : List Char) (closed : (Lexeme.scan text).1.ending = .closed) :
    ∃ units body, (Lexeme.scan text).1.units? = some units ∧
      text = body ++ '"' :: (Lexeme.scan text).2 ∧ SpellsString units body := by
  obtain ⟨pieces, body, same, split, spelled⟩ := Lexeme.scanFrom_sound [] text closed
  refine ⟨pieces.flatMap Piece.units, body, ?_, split, spelled⟩
  rw [Lexeme.units?, if_pos closed]
  exact congrArg (fun pieces => some (pieces.flatMap Piece.units)) same

theorem scanNegative_sound (text rest : List Char) (numeral : Numeral)
    (found : Numeral.scanNegative text = (.ok numeral, rest)) :
    ∃ more, text = more ++ rest ∧ SpellsNumber numeral ('-' :: more) := by
  cases text with
  | nil => cases found
  | cons c text =>
    rw [Numeral.scanNegative] at found
    split at found
    · rename_i first known
      obtain ⟨more, rfl, spelled⟩ := Numeral.scanFrom_sound true first text rest numeral found
      rw [eq_digitChar c first known]
      exact ⟨digitChar first :: more, rfl, spelled⟩
    · cases found

namespace Token

theorem scanOne_sound (c : Char) (rest : List Char) :
    (scanOne c rest).1.Sound → ∃ spelled, c :: rest = spelled ++ (scanOne c rest).2 ∧
      SpellsToken (scanOne c rest).1 spelled := by
  fun_cases scanOne c rest with
  | case1 => exact fun _ => ⟨_, rfl, .openList⟩
  | case2 => exact fun _ => ⟨_, rfl, .closeList⟩
  | case3 => exact fun _ => ⟨_, rfl, .openObject⟩
  | case4 => exact fun _ => ⟨_, rfl, .closeObject⟩
  | case5 => exact fun _ => ⟨_, rfl, .comma⟩
  | case6 => exact fun _ => ⟨_, rfl, .colon⟩
  | case7 lexeme after scanned =>
    intro closed
    have sound := lexeme_scan_sound rest
    rw [scanned] at sound
    obtain ⟨units, body, known, rfl, spelled⟩ := sound closed
    exact ⟨_, by simp, .text known spelled⟩
  | case8 found after scanned =>
    intro sound
    obtain ⟨value, rfl⟩ := sound
    obtain ⟨rfl, rfl⟩ := scanWord_sound _ _ _ _ _ scanned
    exact ⟨_, rfl, .null⟩
  | case9 found after scanned =>
    intro sound
    obtain ⟨value, rfl⟩ := sound
    obtain ⟨rfl, rfl⟩ := scanWord_sound _ _ _ _ _ scanned
    exact ⟨_, rfl, .true⟩
  | case10 found after scanned =>
    intro sound
    obtain ⟨value, rfl⟩ := sound
    obtain ⟨rfl, rfl⟩ := scanWord_sound _ _ _ _ _ scanned
    exact ⟨_, rfl, .false⟩
  | case11 found after scanned =>
    intro sound
    obtain ⟨numeral, rfl⟩ := sound
    obtain ⟨more, split, spelled⟩ := scanNegative_sound rest after numeral scanned
    exact ⟨_, congrArg ('-' :: ·) split, .number spelled⟩
  | case12 =>
    rename_i first found after scanned _ _ _ _ _ _ _ _ _ _ _ known
    intro sound
    obtain ⟨numeral, rfl⟩ := sound
    obtain ⟨more, rfl, spelled⟩ := Numeral.scanFrom_sound false first rest after numeral scanned
    rw [eq_digitChar c first known]
    exact ⟨_, rfl, .number spelled⟩
  | case13 => exact False.elim

theorem scanFrom_eq (seen : List Token) (text : List Char) :
    scanFrom seen text = seen.reverse ++ scan text := by
  have general (seen more : List Token) (text : List Char) :
      scanFrom (more ++ seen) text = seen.reverse ++ scanFrom more text := by
    fun_induction scanFrom more text with
    | case1 more => simp [scanFrom]
    | case2 more c rest space ih => rw [scanFrom, if_pos space, ih]
    | case3 more c rest visible _ ih => rw [scanFrom, if_neg visible, ← ih, List.cons_append]
  exact general seen [] text

theorem scan_nil : scan [] = [] := by
  rw [scan, scanFrom]
  rfl

theorem scan_space (c : Char) (rest : List Char) (space : isSpace c = true) :
    scan (c :: rest) = scan rest := by
  rw [scan, scanFrom, if_pos space]
  rfl

theorem scan_token (c : Char) (rest : List Char) (visible : isSpace c = false) :
    scan (c :: rest) = (scanOne c rest).1 :: scan (scanOne c rest).2 := by
  rw [scan, scanFrom, if_neg (by simp [visible])]
  exact scanFrom_eq _ _

theorem scan_spaces (spaces rest : List Char) (blank : Spaces spaces) :
    scan (spaces ++ rest) = scan rest := by
  induction spaces with
  | nil => rfl
  | cons c spaces ih =>
    rw [List.cons_append, scan_space c _ (blank c List.mem_cons_self)]
    exact ih fun other member => blank other (List.mem_cons_of_mem c member)

theorem scan_eq_nil (text : List Char) (empty : scan text = []) : Spaces text := by
  induction text with
  | nil => exact fun c member => absurd member List.not_mem_nil
  | cons c rest ih =>
    cases space : isSpace c with
    | true =>
      rw [scan_space c rest space] at empty
      exact List.forall_mem_cons.mpr ⟨space, ih empty⟩
    | false =>
      rw [scan_token c rest space] at empty
      cases empty

/-- After white space stands what `spells` describes, and then the given tokens. -/
def Begins (spells : List Char → Prop) (text : List Char) (tokens : List Token) : Prop :=
  ∃ before spelled rest, text = before ++ (spelled ++ rest) ∧ Spaces before ∧ spells spelled ∧
    scan rest = tokens

theorem Begins.imp {spells other : List Char → Prop} {text : List Char} {tokens : List Token}
    (begins : Begins spells text tokens) (implied : ∀ spelled, spells spelled → other spelled) :
    Begins other text tokens := by
  obtain ⟨before, spelled, rest, split, blank, here, after⟩ := begins
  exact ⟨before, spelled, rest, split, blank, implied spelled here, after⟩

theorem scan_sound (text : List Char) (token : Token) (tokens : List Token)
    (scanned : scan text = token :: tokens) (sound : token.Sound) :
    Begins (SpellsToken token) text tokens := by
  induction text with
  | nil =>
    rw [scan_nil] at scanned
    cases scanned
  | cons c rest ih =>
    cases space : isSpace c with
    | true =>
      rw [scan_space c rest space] at scanned
      obtain ⟨before, spelled, after, rfl, blank, spells, scannedAfter⟩ := ih scanned
      exact ⟨c :: before, spelled, after, rfl, List.forall_mem_cons.mpr ⟨space, blank⟩, spells,
        scannedAfter⟩
    | false =>
      rw [scan_token c rest space] at scanned
      cases scanned
      obtain ⟨spelled, split, spells⟩ := scanOne_sound c rest sound
      exact ⟨[], spelled, _, split, fun c member => absurd member List.not_mem_nil, spells, rfl⟩

theorem scan_single (c : Char) (rest : List Char) (token : Token) (visible : isSpace c = false)
    (single : scanOne c rest = (token, rest)) : scan (c :: rest) = token :: scan rest := by
  rw [scan_token c rest visible, single]

theorem scan_string (units : List Nat) (body : List Char) (spelled : SpellsString units body) :
    ∃ lexeme, lexeme.units? = some units ∧
      ∀ rest, scan ('"' :: body ++ '"' :: rest) = .text lexeme :: scan rest := by
  obtain ⟨pieces, same, scanned⟩ := Lexeme.scanFrom_complete units body spelled
  refine ⟨⟨pieces, .closed⟩, ?_, ?_⟩
  · rw [Lexeme.units?, if_pos rfl, same]
  · intro rest
    have first : scanOne '"' (body ++ '"' :: rest) = (.text ⟨pieces, .closed⟩, rest) := by
      show (Token.text (Lexeme.scan _).1, _) = _
      rw [Lexeme.scan, scanned]
      rfl
    rw [List.cons_append, scan_token _ _ (by decide), first]

theorem scanOne_digit (c : Char) (rest : List Char) (first : Digit)
    (known : digit? c = some first) :
    scanOne c rest =
      (.number (Numeral.scanFrom false first rest).1, (Numeral.scanFrom false first rest).2) := by
  have other (d : Char) (notDigit : digit? d = none) : c ≠ d := by
    intro same
    rw [same, notDigit] at known
    cases known
  rw [scanOne]
  · rw [known]
  all_goals exact other _ (by decide)

theorem scanOne_minus (rest : List Char) :
    scanOne '-' rest = (.number (Numeral.scanNegative rest).1, (Numeral.scanNegative rest).2) := rfl

theorem isSpace_digitChar (digit : Digit) : isSpace (digitChar digit) = false := by
  revert digit
  decide

theorem scan_number (numeral : Numeral) (spelled rest : List Char)
    (spells : SpellsNumber numeral spelled) (delimited : Delimited rest) :
    scan (spelled ++ rest) = .number (.ok numeral) :: scan rest := by
  obtain ⟨negative, first, more, leading, fractional, scaled⟩ := spells
  rename_i fraction exponent point power
  have scanned := Numeral.scanFrom_complete negative first more leading fraction exponent point
    power rest fractional scaled delimited
  have known := digit?_digitChar first
  have visible := isSpace_digitChar first
  cases negative with
  | false =>
    have whole : (if false = true then ['-'] else []) ++ digitText (first :: more) ++ point ++
        power ++ rest = digitChar first :: (digitText more ++ (point ++ (power ++ rest))) := by
      simp [digitText]
    rw [whole, scan_token _ _ visible, scanOne_digit _ _ first known, scanned]
  | true =>
    have whole : (if true = true then ['-'] else []) ++ digitText (first :: more) ++ point ++
        power ++ rest =
          '-' :: digitChar first :: (digitText more ++ (point ++ (power ++ rest))) := by
      simp [digitText]
    have negated : Numeral.scanNegative
        (digitChar first :: (digitText more ++ (point ++ (power ++ rest)))) =
        (.ok ⟨true, first :: more, fraction, exponent⟩, rest) := by
      rw [Numeral.scanNegative, known]
      exact scanned
    rw [whole, scan_token _ _ (by decide), scanOne_minus, negated]

theorem scan_word (c : Char) (letters : List Char) (word : Word) (visible : isSpace c = false)
    (begins : ∀ rest, scanOne c rest =
      (.word (scanWord word letters rest).1, (scanWord word letters rest).2)) (rest : List Char) :
    scan (c :: letters ++ rest) = .word (.ok word) :: scan rest := by
  rw [List.cons_append, scan_token c _ visible, begins, scanWord_complete]

theorem scan_null (rest : List Char) :
    scan ('n' :: 'u' :: 'l' :: 'l' :: rest) = .word (.ok .null) :: scan rest :=
  scan_word 'n' ['u', 'l', 'l'] .null (by decide) (fun _ => rfl) rest

theorem scan_true (rest : List Char) :
    scan ('t' :: 'r' :: 'u' :: 'e' :: rest) = .word (.ok .true) :: scan rest :=
  scan_word 't' ['r', 'u', 'e'] .true (by decide) (fun _ => rfl) rest

theorem scan_false (rest : List Char) :
    scan ('f' :: 'a' :: 'l' :: 's' :: 'e' :: rest) = .word (.ok .false) :: scan rest :=
  scan_word 'f' ['a', 'l', 's', 'e'] .false (by decide) (fun _ => rfl) rest

end Token

end RouteTemplate.Json
