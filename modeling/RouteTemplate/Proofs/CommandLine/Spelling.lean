import RouteTemplate.CommandLine.Command
import RouteTemplate.Proofs.Action

/-!
How arguments spell settings. An option is called by its name or its letter, and its value is
attached to it or stands in the next argument. Reading accepts just what spells settings, and finds
these settings in their order (`readAll_eq_some`).
-/

namespace RouteTemplate.CommandLine

/-- Whether an argument calls an option, with a value attached to it or without one. -/
inductive Switch.Called (switch : Switch) : List Char → Option (List Char) → Prop where
  | name : Called switch ('-' :: '-' :: switch.long.toList) none
  | nameValue (value : List Char) :
    Called switch ('-' :: '-' :: (switch.long.toList ++ '=' :: value)) (some value)
  | letter {letter : Char} (short : switch.letter? = some letter) :
    Called switch ['-', letter] none
  | letterValue {letter : Char} (short : switch.letter? = some letter) (value : List Char) :
    Called switch ('-' :: letter :: '=' :: value) (some value)
  | letterGlued {letter first : Char} (short : switch.letter? = some letter) (noSign : first ≠ '=')
    (others : List Char) :
    Called switch ('-' :: letter :: first :: others) (some (first :: others))

variable (allowed : List Switch)

/-- The arguments for one setting. -/
inductive Setting.Written : Setting → List String → Prop where
  | path {text : String} (plain : looksLikeOption text = false) : Written (.path text) [text]
  | flag {switch : Switch} {argument : String} (known : switch ∈ allowed)
    (called : switch.Called argument.toList none) (bare : switch.takesValue = false) :
    Written (.flag switch) [argument]
  | attached {switch : Switch} {argument text : String} (known : switch ∈ allowed)
    (called : switch.Called argument.toList (some text.toList))
    (takes : switch.takesValue = true) : Written (.value switch text) [argument]
  | apart {switch : Switch} {argument text : String} (known : switch ∈ allowed)
    (called : switch.Called argument.toList none) (takes : switch.takesValue = true)
    (plain : looksLikeOption text = false) : Written (.value switch text) [argument, text]

/-- Whether the arguments are settings one after another, and paths alone after `--`. -/
inductive Spells : List String → Settings → Prop where
  | done : Spells [] []
  | paths (texts : List String) : Spells ("--" :: texts) (texts.map .path)
  | setting {setting : Setting} {here others : List String} {settings : Settings}
    (written : setting.Written allowed here) (following : Spells others settings) :
    Spells (here ++ others) (setting :: settings)

namespace Switch

variable (switch : Switch)

theorem long_injective : Function.Injective long := by
  intro first second same
  revert same
  cases first <;> cases second <;> decide

theorem letter?_unique (first second : Switch) (letter : Char) (left : first.letter? = some letter)
    (right : second.letter? = some letter) : first = second := by
  cases first <;> cases left <;> cases second <;> cases right <;> rfl

theorem letter?_ne_dash : switch.letter? ≠ some '-' := by
  cases switch <;> decide

theorem long_ne_empty : switch.long.toList ≠ [] := by
  cases switch <;> decide

theorem sign_not_mem_long : '=' ∉ switch.long.toList := by
  cases switch <;> decide

theorem called_name (rest : List Char) (attached : Option (List Char)) :
    switch.Called ('-' :: '-' :: rest) attached ↔
      switch.long.toList = (rest.span (· ≠ '=')).1 ∧ attached = (rest.span (· ≠ '=')).2.tail? := by
  constructor
  · intro called
    generalize given : '-' :: '-' :: rest = argument at called
    cases called with
    | name =>
      cases given
      rw [span_plain '=' _ switch.sign_not_mem_long]
      exact ⟨rfl, rfl⟩
    | nameValue value =>
      cases given
      rw [span_separator '=' _ value switch.sign_not_mem_long]
      exact ⟨rfl, rfl⟩
    | letter short =>
      cases given
      exact absurd short switch.letter?_ne_dash
    | letterValue short =>
      cases given
      exact absurd short switch.letter?_ne_dash
    | letterGlued short =>
      cases given
      exact absurd short switch.letter?_ne_dash
  · intro found
    rcases found with ⟨name, rfl⟩
    by_cases present : '=' ∈ rest
    · rcases List.eq_append_cons_of_mem present with ⟨before, value, rfl, plain⟩
      rw [span_separator '=' before value plain] at name ⊢
      have same : switch.long.toList = before := name
      rw [← same]
      exact .nameValue value
    · rw [span_plain '=' rest present] at name ⊢
      have same : switch.long.toList = rest := name
      rw [← same]
      exact .name

def attachedTo : List Char → Option (List Char)
  | [] => none
  | '=' :: value => some value
  | value => some value

theorem attachedTo_glued (first : Char) (noSign : first ≠ '=') (others : List Char) :
    attachedTo (first :: others) = some (first :: others) := by
  rw [attachedTo]
  · exact nofun
  · intro value same
    exact noSign (List.cons.inj same).1

theorem called_letter (letter : Char) (single : letter ≠ '-') (rest : List Char)
    (attached : Option (List Char)) :
    switch.Called ('-' :: letter :: rest) attached ↔
      switch.letter? = some letter ∧ attached = attachedTo rest := by
  constructor
  · intro called
    generalize given : '-' :: letter :: rest = argument at called
    cases called with
    | name =>
      cases given
      exact absurd rfl single
    | nameValue value =>
      cases given
      exact absurd rfl single
    | letter short =>
      cases given
      exact ⟨short, rfl⟩
    | letterValue short value =>
      cases given
      exact ⟨short, rfl⟩
    | letterGlued short noSign others =>
      cases given
      exact ⟨short, (attachedTo_glued _ noSign others).symm⟩
  · intro found
    rcases found with ⟨short, rfl⟩
    cases rest with
    | nil => exact .letter short
    | cons first others =>
      by_cases sign : first = '='
      · subst sign
        exact .letterValue short others
      · rw [attachedTo_glued first sign others]
        exact .letterGlued short sign others

end Switch

theorem looksLikeOption_iff (argument : String) :
    looksLikeOption argument = true ↔ ∃ letter rest, argument.toList = '-' :: letter :: rest := by
  rw [looksLikeOption, Bool.and_eq_true, bne_iff_ne, beq_iff_eq, ← String.toList_inj.ne]
  match argument.toList with
  | [] => simp
  | [first] => simp
  | first :: second :: rest => simp

theorem Switch.looksLikeOption_called (switch : Switch) (argument : String)
    (attached : Option (List Char)) (called : switch.Called argument.toList attached) :
    looksLikeOption argument = true := by
  apply (looksLikeOption_iff argument).mpr
  generalize argument.toList = text at called
  cases called with
  | _ => exact ⟨_, _, rfl⟩

theorem Switch.called_ne_end (switch : Switch) (argument : String) (attached : Option (List Char))
    (called : switch.Called argument.toList attached) : argument ≠ "--" := by
  intro same
  subst same
  exact switch.long_ne_empty ((switch.called_name [] attached).mp called).1

theorem find?_eq_some_of_unique {α : Type} (p : α → Bool)
    (unique : ∀ first second, p first = true → p second = true → first = second)
    (items : List α) (item : α) : items.find? p = some item ↔ item ∈ items ∧ p item = true := by
  constructor
  · intro found
    exact ⟨List.mem_of_find?_eq_some found, List.find?_some found⟩
  · intro listed
    rcases listed with ⟨member, holds⟩
    have there : (items.find? p).isSome := List.find?_isSome.mpr ⟨item, member, holds⟩
    rcases Option.isSome_iff_exists.mp there with ⟨other, found⟩
    rw [found, unique other item (List.find?_some found) holds]

namespace Argument

theorem find?_long (name : List Char) (switch : Switch) :
    (allowed.find? fun other => other.long == String.ofList name) = some switch ↔
      switch ∈ allowed ∧ switch.long.toList = name := by
  rw [find?_eq_some_of_unique]
  · rw [beq_iff_eq, ← String.toList_inj, String.toList_ofList]
  · intro first second left right
    exact Switch.long_injective ((eq_of_beq left).trans (eq_of_beq right).symm)

theorem find?_letter (letter : Char) (switch : Switch) :
    (allowed.find? fun other => other.letter? == some letter) = some switch ↔
      switch ∈ allowed ∧ switch.letter? = some letter := by
  rw [find?_eq_some_of_unique]
  · rw [beq_iff_eq]
  · intro first second left right
    exact Switch.letter?_unique first second letter (eq_of_beq left) (eq_of_beq right)

theorem read_plain (argument : String) (plain : looksLikeOption argument = false) :
    read allowed argument = some (.complete (.path argument)) := by
  have shape (letter : Char) (rest : List Char) : argument.toList ≠ '-' :: letter :: rest := by
    intro same
    have option := (looksLikeOption_iff argument).mpr ⟨letter, rest, same⟩
    exact absurd option (ne_true_of_eq_false plain)
  rw [read]
  split
  · exact absurd ‹_› (shape _ _)
  · exact absurd ‹_› (shape _ _)
  · rfl

theorem ofSwitch_attachedTo (switch : Switch) (rest : List Char) :
    (match rest with
      | [] => ofSwitch switch none
      | '=' :: value => ofSwitch switch (some value)
      | value => ofSwitch switch (some value)) = ofSwitch switch (Switch.attachedTo rest) := by
  rw [Switch.attachedTo.eq_def]
  split <;> rfl

theorem read_option (argument : String) (option : looksLikeOption argument = true)
    (found : Argument) :
    read allowed argument = some found ↔
      ∃ switch ∈ allowed, ∃ attached, switch.Called argument.toList attached ∧
        ofSwitch switch attached = some found := by
  rw [read]
  split
  next long shape =>
    rw [shape, Option.bind_eq_bind, Option.bind_eq_some_iff]
    simp only [find?_long, Switch.called_name, and_assoc, exists_and_left, exists_eq_left]
  next letter rest single shape =>
    rw [shape, Option.bind_eq_bind, Option.bind_eq_some_iff]
    simp only [find?_letter, Switch.called_letter _ letter single, and_assoc, exists_and_left,
      exists_eq_left]
    -- Reading tells the attached values apart after it has found the option, `attachedTo` before.
    apply exists_congr
    intro switch
    apply and_congr_right
    intro _
    apply and_congr_right
    intro _
    exact Eq.congr_left (ofSwitch_attachedTo switch rest)
  next other =>
    rcases (looksLikeOption_iff argument).mp option with ⟨letter, rest, shape⟩
    exact (other letter rest shape).elim

theorem ofSwitch_none (switch : Switch) :
    ofSwitch switch none = some (if switch.takesValue then .awaitsValue switch
      else .complete (.flag switch)) := by
  cases switch <;> rfl

theorem ofSwitch_some (switch : Switch) (value : List Char) (found : Argument) :
    ofSwitch switch (some value) = some found ↔
      switch.takesValue = true ∧ found = .complete (.value switch (String.ofList value)) := by
  cases switch <;> simp [ofSwitch, Switch.takesValue, eq_comm]

end Argument

namespace Setting

theorem readAll_complete (argument : String) (others : List String) (setting : Setting)
    (noEnd : argument ≠ "--")
    (read : Argument.read allowed argument = some (.complete setting)) :
    readAll allowed (argument :: others) = (readAll allowed others).map (setting :: ·) := by
  rw [readAll, if_neg noEnd, read]

theorem readAll_awaits (argument text : String) (others : List String) (switch : Switch)
    (noEnd : argument ≠ "--") (read : Argument.read allowed argument = some (.awaitsValue switch))
    (plain : looksLikeOption text = false) :
    readAll allowed (argument :: text :: others) =
      (readAll allowed others).map (value switch text :: ·) := by
  rw [readAll, if_neg noEnd, read]
  show (if looksLikeOption text = true then _ else _) = _
  rw [plain]
  rfl

theorem readAll_written (setting : Setting) (here others : List String)
    (written : setting.Written allowed here) :
    readAll allowed (here ++ others) = (readAll allowed others).map (setting :: ·) := by
  have read (switch : Switch) (argument : String) (attached : Option (List Char))
      (known : switch ∈ allowed) (called : switch.Called argument.toList attached)
      (found : Argument) (same : Argument.ofSwitch switch attached = some found) :
      Argument.read allowed argument = some found :=
    (Argument.read_option allowed argument (switch.looksLikeOption_called argument attached called)
      found).mpr ⟨switch, known, attached, called, same⟩
  cases written with
  | path plain =>
    apply readAll_complete
    · intro same
      subst same
      cases plain
    · exact Argument.read_plain allowed _ plain
  | flag known called bare =>
    apply readAll_complete _ _ _ _ (Switch.called_ne_end _ _ _ called)
    apply read _ _ _ known called
    rw [Argument.ofSwitch_none, bare]
    rfl
  | attached known called takes =>
    apply readAll_complete _ _ _ _ (Switch.called_ne_end _ _ _ called)
    apply read _ _ _ known called
    rw [Argument.ofSwitch_some, String.ofList_toList]
    exact ⟨takes, rfl⟩
  | apart known called takes plain =>
    apply readAll_awaits _ _ _ _ _ (Switch.called_ne_end _ _ _ called) _ plain
    apply read _ _ _ known called
    rw [Argument.ofSwitch_none, takes]
    rfl

theorem written_of_complete (argument : String) (setting : Setting)
    (read : Argument.read allowed argument = some (.complete setting)) :
    setting.Written allowed [argument] := by
  cases option : looksLikeOption argument with
  | false =>
    rw [Argument.read_plain allowed argument option] at read
    cases read
    exact .path option
  | true =>
    rcases (Argument.read_option allowed argument option _).mp read with
      ⟨switch, known, attached, called, same⟩
    cases attached with
    | none =>
      rw [Argument.ofSwitch_none] at same
      cases takes : switch.takesValue <;> rw [takes] at same <;> cases same
      exact .flag known called takes
    | some value =>
      rcases (Argument.ofSwitch_some switch value _).mp same with ⟨takes, same⟩
      cases same
      exact .attached known (by rwa [String.toList_ofList]) takes

theorem written_of_awaits (argument text : String) (switch : Switch)
    (read : Argument.read allowed argument = some (.awaitsValue switch))
    (plain : looksLikeOption text = false) :
    (value switch text).Written allowed [argument, text] := by
  cases option : looksLikeOption argument with
  | false =>
    rw [Argument.read_plain allowed argument option] at read
    cases read
  | true =>
    rcases (Argument.read_option allowed argument option _).mp read with
      ⟨other, known, attached, called, same⟩
    cases attached with
    | none =>
      rw [Argument.ofSwitch_none] at same
      cases takes : other.takesValue <;> rw [takes] at same <;> cases same
      exact .apart known called takes plain
    | some value =>
      rcases (Argument.ofSwitch_some other value _).mp same with ⟨_, same⟩
      cases same

theorem readAll_of_spells (arguments : List String) (settings : Settings)
    (spells : Spells allowed arguments settings) : readAll allowed arguments = some settings := by
  induction spells with
  | done => rw [readAll]
  | paths texts => rw [readAll, if_pos rfl]
  | setting written following ih => rw [readAll_written allowed _ _ _ written, ih, Option.map_some]

theorem spells_of_readAll (arguments : List String) (settings : Settings)
    (read : readAll allowed arguments = some settings) : Spells allowed arguments settings := by
  fun_induction readAll allowed arguments generalizing settings with
  | case1 =>
    cases read
    exact .done
  | case2 others =>
    cases read
    exact .paths others
  | case3 argument others noEnd refused => cases read
  | case4 argument others noEnd setting here ih =>
    rcases Option.map_eq_some_iff.mp read with ⟨rest, there, rfl⟩
    exact .setting (written_of_complete allowed argument setting here) (ih rest there)
  | case5 argument noEnd switch here => cases read
  | case6 argument noEnd switch here text others option => cases read
  | case7 argument noEnd switch here text others plain ih =>
    rcases Option.map_eq_some_iff.mp read with ⟨rest, there, rfl⟩
    have written := written_of_awaits allowed argument text switch here (eq_false_of_ne_true plain)
    exact .setting written (ih rest there)

theorem readAll_eq_some (arguments : List String) (settings : Settings) :
    readAll allowed arguments = some settings ↔ Spells allowed arguments settings :=
  ⟨spells_of_readAll allowed arguments settings, readAll_of_spells allowed arguments settings⟩

end Setting

theorem spells_unique (arguments : List String) (settings other : Settings)
    (spells : Spells allowed arguments settings) (again : Spells allowed arguments other) :
    settings = other := by
  have read := Setting.readAll_of_spells allowed arguments settings spells
  rw [Setting.readAll_of_spells allowed arguments other again] at read
  exact (Option.some.inj read).symm

end RouteTemplate.CommandLine
