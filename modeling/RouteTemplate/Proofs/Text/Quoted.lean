import RouteTemplate.Text.Quoted

/-!
Quoted texts can be read back: the front of a quoted text gives its first character and leaves the
rest (`readQuoted_quotedChar`). So no two texts are quoted alike, and a quoted text stays on one
line whatever it holds.
-/

namespace RouteTemplate.Text

def hexDigitValue (c : Char) : Nat := if c.toNat < 97 then c.toNat - 48 else c.toNat - 87

def hexValue (digits : List Char) : Nat :=
  digits.foldl (fun value digit => 16 * value + hexDigitValue digit) 0

theorem hexDigitValue_digitChar (digit : Nat) (small : digit < 16) :
    hexDigitValue (Nat.digitChar digit) = digit := by
  revert digit
  decide

theorem digitChar_inside (digit : Nat) (small : digit < 16) :
    Nat.digitChar digit ≠ '\x7d' ∧ Nat.digitChar digit ≠ '\n' := by
  revert digit
  decide

theorem hexValue_toDigits (number : Nat) : hexValue (Nat.toDigits 16 number) = number := by
  induction number using Nat.strongRecOn with
  | ind number ih =>
    by_cases small : number < 16
    · rw [Nat.toDigits_of_lt_base small]
      simp [hexValue, hexDigitValue_digitChar number small]
    · have large : 16 ≤ number := Nat.not_lt.mp small
      have before : hexValue (Nat.toDigits 16 (number / 16)) = number / 16 := ih _ (by omega)
      have last := hexDigitValue_digitChar (number % 16) (Nat.mod_lt number (by decide))
      rw [Nat.toDigits_of_base_le (by decide) large, hexValue, List.foldl_append]
      rw [hexValue] at before
      rw [before, List.foldl_cons, List.foldl_nil, last, Nat.div_add_mod]

theorem toDigits_inside (number : Nat) :
    ∀ c ∈ Nat.toDigits 16 number, c ≠ '\x7d' ∧ c ≠ '\n' := by
  induction number using Nat.strongRecOn with
  | ind number ih =>
    by_cases small : number < 16
    · rw [Nat.toDigits_of_lt_base small]
      exact List.forall_mem_singleton.mpr (digitChar_inside number small)
    · have large : 16 ≤ number := Nat.not_lt.mp small
      have last := digitChar_inside (number % 16) (Nat.mod_lt number (by decide))
      rw [Nat.toDigits_of_base_le (by decide) large, List.forall_mem_append]
      exact ⟨ih _ (by omega), List.forall_mem_singleton.mpr last⟩

def readQuoted : List Char → Option (Char × List Char)
  | '\\' :: '0' :: rest => some ('\x00', rest)
  | '\\' :: 't' :: rest => some ('\t', rest)
  | '\\' :: 'r' :: rest => some ('\r', rest)
  | '\\' :: 'n' :: rest => some ('\n', rest)
  | '\\' :: '"' :: rest => some ('"', rest)
  | '\\' :: '\\' :: rest => some ('\\', rest)
  | '\\' :: 'u' :: '\x7b' :: rest =>
    some (Char.ofNat (hexValue (rest.takeWhile (· ≠ '\x7d'))),
      (rest.dropWhile (· ≠ '\x7d')).tail)
  | c :: rest => some (c, rest)
  | [] => none

theorem readQuoted_number (number : Nat) (rest : List Char) :
    readQuoted ('\\' :: 'u' :: '\x7b' :: Nat.toDigits 16 number ++ ['\x7d'] ++ rest) =
      some (Char.ofNat number, rest) := by
  have inside : ∀ c ∈ Nat.toDigits 16 number, decide (c ≠ '\x7d') = true := fun c member =>
    decide_eq_true (toDigits_inside number c member).1
  simp only [List.cons_append, List.append_assoc, List.nil_append, readQuoted]
  rw [List.takeWhile_append_of_pos inside, List.dropWhile_append_of_pos inside]
  simp [hexValue_toDigits]

theorem readQuoted_quotedChar (c : Char) (rest : List Char) :
    readQuoted (quotedChar c ++ rest) = some (c, rest) := by
  fun_cases quotedChar c with
  | case7 => rw [readQuoted_number, Char.ofNat_toNat]
  | case8 =>
    rw [List.singleton_append, readQuoted]
    all_goals
      intros
      contradiction
  | _ => rfl

theorem flatMap_quotedChar_injective (first second : List Char)
    (same : first.flatMap quotedChar = second.flatMap quotedChar) : first = second := by
  have read (c : Char) (text : List Char) :
      readQuoted ((c :: text).flatMap quotedChar) = some (c, text.flatMap quotedChar) :=
    readQuoted_quotedChar c _
  induction first generalizing second with
  | nil =>
    cases second with
    | nil => rfl
    | cons d others =>
      have front := read d others
      rw [← same] at front
      cases front
  | cons c text ih =>
    have front := read c text
    rw [same] at front
    cases second with
    | nil => cases front
    | cons d others =>
      rw [read d others] at front
      obtain ⟨rfl, rest⟩ := Prod.mk.inj (Option.some.inj front)
      rw [ih others rest.symm]

theorem quoted_injective (first second : String) (same : quoted first = quoted second) :
    first = second := by
  have inner := (List.cons.inj (String.ofList_injective same)).2
  exact String.toList_inj.mp (flatMap_quotedChar_injective _ _ (List.append_cancel_right inner))

theorem newline_not_mem_quotedChar (c : Char) : '\n' ∉ quotedChar c := by
  fun_cases quotedChar c with
  | case7 =>
    intro member
    have digit : '\n' ∈ Nat.toDigits 16 c.toNat := by simpa using member
    exact (toDigits_inside c.toNat '\n' digit).2 rfl
  | case8 _ _ _ _ noNewline => exact fun member => noNewline (List.mem_singleton.mp member).symm
  | _ => decide

theorem newline_not_mem_quoted (text : String) : '\n' ∉ (quoted text).toList := by
  rw [quoted, String.toList_ofList]
  simp [newline_not_mem_quotedChar]

end RouteTemplate.Text
