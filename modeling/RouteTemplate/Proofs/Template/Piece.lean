import RouteTemplate.Template.Walk

namespace RouteTemplate

/-- Letters, digits and the underscore. Beyond ASCII every character counts as a letter. -/
def isWordChar (c : Char) : Bool := c.isAlphanum || c == '_' || 128 ≤ c.toNat

def IsWord (name : String) : Prop := name.toList ≠ [] ∧ ∀ c ∈ name.toList, isWordChar c = true

instance (name : String) : Decidable (IsWord name) :=
  have : Decidable (∀ c ∈ name.toList, isWordChar c = true) := List.decidableBAll _ _
  inferInstanceAs (Decidable (_ ∧ _))

def isBrace (c : Char) : Bool := c == '\x7b' || c == '\x7d'

inductive Operator where
  | value
  | carrying (separator : Separator)
  | segments
  deriving DecidableEq, Repr

def Separator.char : Separator → Char
  | slash => '/'
  | dot => '.'

def Operator.body (name : String) : Operator → List Char
  | value => name.toList
  | carrying separator => separator.char :: name.toList
  | segments => '/' :: name.toList ++ ['*']

/-- A character of plain text, or an expression. Plain text is cut into its characters, so that
there is no choice of where one run of text ends and the next begins. -/
inductive Piece where
  | plain (c : Char)
  | expression (operator : Operator) (name : String)
  deriving DecidableEq, Repr

namespace Piece

def chars : Piece → List Char
  | plain c => [c]
  | expression operator name => '\x7b' :: operator.body name ++ ['\x7d']

def Sound : Piece → Prop
  | plain c => isBrace c = false
  | expression _ name => IsWord name

def name? : Piece → Option String
  | plain _ => none
  | expression _ name => some name

end Piece

def written (pieces : List Piece) : List Char := pieces.flatMap Piece.chars

/-- Whether a template splits into the pieces, in this order and with nothing left. -/
def Splits (template : String) (pieces : List Piece) : Prop :=
  (∀ piece ∈ pieces, piece.Sound) ∧ written pieces = template.toList

def named? (operator : Operator) (name : List Char) : Option Piece :=
  if IsWord (String.ofList name) then some (.expression operator (String.ofList name)) else none

def expression? : List Char → Option Piece
  | '/' :: rest =>
    if rest.getLast? = some '*' then named? .segments rest.dropLast
    else named? (.carrying .slash) rest
  | '.' :: rest => named? (.carrying .dot) rest
  | rest => named? .value rest

/-- Reads on. If a brace is open, what has been read since then is at hand, from the end. -/
def scan : Option (List Char) → List Char → Option (List Piece)
  | none, [] => some []
  | some _, [] => none
  | none, c :: rest =>
    if c = '\x7b' then scan (some []) rest
    else if c = '\x7d' then none
    else (scan none rest).map (.plain c :: ·)
  | some opened, c :: rest =>
    if c = '\x7b' then none
    else if c = '\x7d' then do
      let piece ← expression? opened.reverse
      let others ← scan none rest
      return piece :: others
    else scan (some (c :: opened)) rest

def pieces? (template : String) : Option (List Piece) := scan none template.toList

theorem word_ne (name : String) (word : IsWord name) (c mark : Char) (member : c ∈ name.toList)
    (special : isWordChar mark = false) : c ≠ mark := by
  rintro rfl
  exact Bool.false_ne_true (special.symm.trans (word.2 c member))

theorem body_not_brace (operator : Operator) (name : String) (word : IsWord name) :
    ∀ c ∈ operator.body name, isBrace c = false := by
  have inName : ∀ c ∈ name.toList, isBrace c = false := by
    intro c member
    have opening := word_ne name word c '\x7b' member rfl
    have closing := word_ne name word c '\x7d' member rfl
    simp [isBrace, opening, closing]
  intro c member
  cases operator with
  | value => exact inName c member
  | carrying separator =>
    rcases List.mem_cons.mp member with rfl | member
    · cases separator <;> rfl
    · exact inName c member
  | segments =>
    simp only [Operator.body, List.cons_append, List.mem_cons, List.mem_append,
      List.not_mem_nil, or_false] at member
    rcases member with rfl | member | rfl
    · rfl
    · exact inName c member
    · rfl

theorem named?_word (operator : Operator) (name : String) (word : IsWord name) :
    named? operator name.toList = some (.expression operator name) := by
  simp [named?, word]

theorem expression?_body (operator : Operator) (name : String) (word : IsWord name) :
    expression? (operator.body name) = some (.expression operator name) := by
  rw [← named?_word operator name word]
  cases operator with
  | value =>
    unfold Operator.body expression?
    split
    · rename_i rest same
      exact (word_ne name word '/' '/' (by simp [same]) rfl rfl).elim
    · rename_i rest same
      exact (word_ne name word '.' '.' (by simp [same]) rfl rfl).elim
    · rfl
  | carrying separator =>
    cases separator with
    | slash =>
      have last : name.toList.getLast? ≠ some '*' := by
        intro star
        exact word_ne name word '*' '*' (List.mem_of_getLast? star) rfl rfl
      exact if_neg last
    | dot => rfl
  | segments => simp [Operator.body, expression?]

theorem named?_eq_some (operator : Operator) (name : List Char) (piece : Piece)
    (read : named? operator name = some piece) :
    piece.Sound ∧ piece = .expression operator (String.ofList name) := by
  by_cases word : IsWord (String.ofList name)
  · simp only [named?, word, if_true, Option.some.injEq] at read
    rw [← read]
    exact ⟨word, rfl⟩
  · simp [named?, word] at read

theorem expression?_eq_some (body : List Char) (piece : Piece)
    (read : expression? body = some piece) :
    piece.Sound ∧ piece.chars = '\x7b' :: body ++ ['\x7d'] := by
  unfold expression? at read
  split at read
  · rename_i rest
    split at read
    · rename_i star
      obtain ⟨name, rfl⟩ := List.getLast?_eq_some_iff.mp star
      obtain ⟨sound, rfl⟩ := named?_eq_some _ _ _ read
      exact ⟨sound, by simp [Piece.chars, Operator.body]⟩
    · obtain ⟨sound, rfl⟩ := named?_eq_some _ _ _ read
      exact ⟨sound, by simp [Piece.chars, Operator.body, Separator.char]⟩
  · obtain ⟨sound, rfl⟩ := named?_eq_some _ _ _ read
    exact ⟨sound, by simp [Piece.chars, Operator.body, Separator.char]⟩
  · obtain ⟨sound, rfl⟩ := named?_eq_some _ _ _ read
    exact ⟨sound, by simp [Piece.chars, Operator.body]⟩

theorem scan_open (body opened rest : List Char) (plain : ∀ c ∈ body, isBrace c = false) :
    scan (some opened) (body ++ '\x7d' :: rest) = (do
      let piece ← expression? (opened.reverse ++ body)
      let others ← scan none rest
      return piece :: others) := by
  induction body generalizing opened with
  | nil => simp [scan]
  | cons c body ih =>
    have here : isBrace c = false := plain c List.mem_cons_self
    simp only [isBrace, Bool.or_eq_false_iff, beq_eq_false_iff_ne] at here
    rw [List.cons_append, scan, if_neg here.1, if_neg here.2,
      ih (c :: opened) fun other member => plain other (List.mem_cons_of_mem c member)]
    simp

theorem scan_chars (piece : Piece) (sound : piece.Sound) (rest : List Char) :
    scan none (piece.chars ++ rest) = (scan none rest).map (piece :: ·) := by
  cases piece with
  | plain c =>
    have here : isBrace c = false := sound
    simp only [isBrace, Bool.or_eq_false_iff, beq_eq_false_iff_ne] at here
    simp [Piece.chars, scan, here.1, here.2]
  | expression operator name =>
    have body := scan_open (operator.body name) [] rest (body_not_brace operator name sound)
    simp only [Piece.chars, List.cons_append, List.append_assoc, List.nil_append, scan, if_true]
    rw [body, List.reverse_nil, List.nil_append, expression?_body operator name sound]
    cases scan none rest <;> rfl

theorem scan_written (pieces : List Piece) (sound : ∀ piece ∈ pieces, piece.Sound) :
    scan none (written pieces) = some pieces := by
  induction pieces with
  | nil => rfl
  | cons piece pieces ih =>
    have tail := ih fun other member => sound other (List.mem_cons_of_mem piece member)
    show scan none (piece.chars ++ written pieces) = _
    rw [scan_chars piece (sound piece List.mem_cons_self), tail]
    rfl

def pending : Option (List Char) → List Char
  | none => []
  | some opened => '\x7b' :: opened.reverse

theorem scan_eq_some (opened : Option (List Char)) (text : List Char) (pieces : List Piece)
    (read : scan opened text = some pieces) :
    (∀ piece ∈ pieces, piece.Sound) ∧ written pieces = pending opened ++ text := by
  induction text generalizing opened pieces with
  | nil =>
    cases opened with
    | none =>
      obtain rfl := Option.some.inj read
      exact ⟨List.forall_mem_nil _, rfl⟩
    | some opened => simp [scan] at read
  | cons c rest ih =>
    cases opened with
    | none =>
      rw [scan] at read
      split at read
      · rename_i brace
        obtain ⟨sound, same⟩ := ih _ _ read
        exact ⟨sound, by simp [same, pending, brace]⟩
      · rename_i opening
        split at read
        · cases read
        · rename_i closing
          obtain ⟨others, tail, rfl⟩ := Option.map_eq_some_iff.mp read
          obtain ⟨sound, same⟩ := ih _ _ tail
          have here : isBrace c = false := by simp [isBrace, opening, closing]
          exact ⟨List.forall_mem_cons.mpr ⟨here, sound⟩, by
            simp only [written, List.flatMap_cons] at same ⊢
            rw [same]
            rfl⟩
    | some opened =>
      rw [scan] at read
      split at read
      · cases read
      · split at read
        · rename_i closing
          obtain ⟨piece, inner, read⟩ := Option.bind_eq_some_iff.mp read
          obtain ⟨others, tail, last⟩ := Option.bind_eq_some_iff.mp read
          obtain rfl := Option.some.inj last
          obtain ⟨soundHead, head⟩ := expression?_eq_some _ _ inner
          obtain ⟨sound, same⟩ := ih _ _ tail
          refine ⟨List.forall_mem_cons.mpr ⟨soundHead, sound⟩, ?_⟩
          simp only [written, List.flatMap_cons] at same ⊢
          rw [same, head, closing]
          simp [pending]
        · obtain ⟨sound, same⟩ := ih _ _ read
          exact ⟨sound, by simp [same, pending]⟩

/-- The reader finds the pieces of a template whenever there are any, and it finds no others. -/
theorem pieces?_eq_some_iff (template : String) (pieces : List Piece) :
    pieces? template = some pieces ↔ Splits template pieces := by
  constructor
  · exact scan_eq_some none template.toList pieces
  · rintro ⟨sound, same⟩
    rw [pieces?, ← same, scan_written pieces sound]

end RouteTemplate
