import RouteTemplate.Pattern.Json
import RouteTemplate.Proofs.Json.Decoding
import RouteTemplate.Proofs.Json.Writing

/-!
Patterns as JSON values. `Denotes` lists the values that stand for a pattern. Reading types a text
as it goes and never builds a value, but it accepts just the texts that write such a value, and
gives that pattern. What is written denotes the pattern that it is written for, and so it is read as
this pattern, however deep it is and whatever its strings hold (`read_compact`).
-/

namespace RouteTemplate

open Json

def Json.Datum.tagged (tag : String) (body : Datum) : Datum := .object [(units tag, body)]

namespace Pattern

mutual

inductive Denotes : Datum → Pattern → Prop where
  | bareSlash : Denotes (.string "slash") .slash
  | slash : Denotes (.tagged "slash" .null) .slash
  | bareDot : Denotes (.string "dot") .dot
  | dot : Denotes (.tagged "dot" .null) .dot
  | literal (text : String) : Denotes (.tagged "literal" (.string text)) (.literal text)
  | symbol (name : String) : Denotes (.tagged "symbol" (.string name)) (.symbol name)
  | star {body : Datum} {child : Pattern} (known : Denotes body child) :
    Denotes (.tagged "star" body) (.star child)
  | group {body : Datum} {child : Pattern} (known : Denotes body child) :
    Denotes (.tagged "group" body) (.group child)
  | cat {first second : Datum} {left right : Pattern} (knownLeft : Denotes first left)
    (knownRight : Denotes second right) :
    Denotes (.tagged "cat" (.list [first, second])) (.cat left right)
  | or {bodies : List Datum} {branches : List Pattern} (known : DenotesEach bodies branches) :
    Denotes (.tagged "or" (.list bodies)) (.or branches)

inductive DenotesEach : List Datum → List Pattern → Prop where
  | nil : DenotesEach [] []
  | cons {first : Datum} {others : List Datum} {branch : Pattern} {branches : List Pattern}
    (known : Denotes first branch) (knownOthers : DenotesEach others branches) :
    DenotesEach (first :: others) (branch :: branches)

end

theorem ofTag_eq_ok (tag : String) (kind : Kind) : Kind.ofTag tag = .ok kind ↔ tag = kind.tag := by
  constructor
  · intro found
    rw [Kind.ofTag] at found
    split at found
    · rename_i other search
      cases found
      have same := List.find?_some search
      exact (eq_of_beq same).symm
    · cases found
  · intro same
    rw [same]
    cases kind <;> rfl

theorem ofBareTag_eq_ok (kind : Kind) (pattern : Pattern) :
    ofBareTag kind = .ok pattern ↔
      kind = .slash ∧ pattern = .slash ∨ kind = .dot ∧ pattern = .dot := by
  cases kind <;> simp [ofBareTag, eq_comm]

theorem checkLast_eq_ok (members : Members) (done : Unit) :
    checkLast members = .ok done ↔ members = .stop .closed := by
  cases members with
  | stop ending => cases ending <;> simp [checkLast]
  | member key value others => simp [checkLast]

def decodeBody (kind : Kind) (value : Draft) : Except ReadError Pattern :=
  match kind with
  | .literal => literal <$> value.string
  | .slash => (fun _ => slash) <$> value.unit
  | .dot => (fun _ => dot) <$> value.unit
  | .symbol => symbol <$> value.string
  | .star => star <$> decode none value
  | .cat => decodeOperands none value
  | .or => or <$> decodeBranches none value
  | .group => group <$> decode none value

theorem decodeTagged_eq_ok (key : Lexeme) (value : Draft) (others : Members) (pattern : Pattern) :
    decodeTagged none (.member key value others) = .ok pattern ↔
      ∃ kind : Kind, key.units? = some (units kind.tag) ∧ decodeBody kind value = .ok pattern ∧
        others = .stop .closed := by
  have last (body : Except ReadError Pattern) :
      (do let pattern ← body
          checkLast others
          pure pattern) = .ok pattern ↔ body = .ok pattern ∧ others = .stop .closed := by
    simp [bind_eq_ok, checkLast_eq_ok, pure, Except.pure]
  rw [decodeTagged]
  simp only [bind_eq_ok, lift_eq_ok, decode_eq_ok_iff, ofTag_eq_ok]
  constructor
  · intro found
    obtain ⟨_, known, kind, rfl, accepted⟩ := found
    refine ⟨kind, known, ?_⟩
    cases kind <;> exact (last _).mp accepted
  · intro found
    obtain ⟨kind, known, accepted⟩ := found
    refine ⟨kind.tag, known, kind, rfl, ?_⟩
    cases kind <;> exact (last _).mpr accepted

theorem datum_eq_tagged (draft : Draft) (tag : String) (body : Datum) :
    draft.datum? = some (.tagged tag body) ↔
      ∃ key value, draft = .object (.member key value (.stop .closed)) ∧
        key.units? = some (units tag) ∧ value.datum? = some body := by
  rw [Draft.datum_eq_some, Datum.tagged, Draft.Holds]
  constructor
  · intro found
    obtain ⟨members, rfl, known⟩ := found
    obtain ⟨key, value, others, knownKey, knownValue, knownOthers, rfl⟩ :=
      members_data_cons members _ _ _ known
    rw [(members_data_nil others).mp knownOthers]
    exact ⟨key, value, rfl, knownKey, knownValue⟩
  · intro found
    obtain ⟨key, value, rfl, knownKey, knownValue⟩ := found
    exact ⟨_, rfl, (member_data_eq_some _ _ _ _).mpr ⟨_, _, _, knownKey, knownValue, rfl, rfl⟩⟩

theorem decodeTagged_stop (ending : ObjectEnd) (pattern : Pattern) :
    decodeTagged none (.stop ending) ≠ .ok pattern := by
  rw [decodeTagged]
  cases checkTagged ending <;> simp [bind, Except.bind]

theorem decode_text (lexeme : Lexeme) (pattern : Pattern) :
    decode none (.text lexeme) = .ok pattern ↔
      lexeme.units? = some (units "slash") ∧ pattern = .slash ∨
        lexeme.units? = some (units "dot") ∧ pattern = .dot := by
  rw [decode]
  simp only [bind_eq_ok, lift_eq_ok, decode_eq_ok_iff, ofTag_eq_ok, ofBareTag_eq_ok]
  constructor
  · intro found
    obtain ⟨_, known, kind, rfl, accepted⟩ := found
    rcases accepted with ⟨rfl, rfl⟩ | ⟨rfl, rfl⟩
    · exact Or.inl ⟨known, rfl⟩
    · exact Or.inr ⟨known, rfl⟩
  · intro found
    rcases found with ⟨known, rfl⟩ | ⟨known, rfl⟩
    · exact ⟨_, known, .slash, rfl, Or.inl ⟨rfl, rfl⟩⟩
    · exact ⟨_, known, .dot, rfl, Or.inr ⟨rfl, rfl⟩⟩

theorem decode_object (members : Members) :
    decode none (.object members) = decodeTagged none members := by
  rw [decode]
  rfl

theorem decodeOperands_eq_ok (draft : Draft) (pattern : Pattern) :
    decodeOperands none draft = .ok pattern ↔
      ∃ first second left right, draft = .list (.item first (.item second (.stop .closed))) ∧
        decode none first = .ok left ∧ decode none second = .ok right ∧
        pattern = .cat left right := by
  have entered : Depth.enter none = .ok none := rfl
  fun_cases decodeOperands none draft with
  | case1 first second others =>
    simp only [entered, bind_eq_ok, lift_eq_ok, finish_eq_ok]
    constructor
    · intro found
      obtain ⟨_, free, left, knownLeft, right, knownRight, _, rfl, same⟩ := found
      cases free
      exact ⟨first, second, left, right, rfl, knownLeft, knownRight, (Except.ok.inj same).symm⟩
    · intro found
      obtain ⟨_, _, left, right, same, knownLeft, knownRight, rfl⟩ := found
      cases same
      exact ⟨none, rfl, left, knownLeft, right, knownRight, (), rfl, rfl⟩
  | case2 first ending => simp [bind_eq_ok]
  | case3 ending => simp [bind_eq_ok]
  | case4 _ other =>
    refine iff_of_false (reject_ne_ok _ draft pattern) ?_
    intro found
    obtain ⟨first, second, _, _, same, _⟩ := found
    exact other first second _ same

theorem decodeBranches_eq_ok (draft : Draft) (branches : List Pattern) :
    decodeBranches none draft = .ok branches ↔
      ∃ items, draft = .list items ∧ decodeItems none items = .ok branches := by
  fun_cases decodeBranches none draft with
  | case1 items =>
    show decodeItems none items = .ok branches ↔ _
    simp
  | case2 _ other =>
    refine iff_of_false (reject_ne_ok _ draft branches) ?_
    intro found
    obtain ⟨items, same, _⟩ := found
    exact other items same

mutual

theorem decode_sound (draft : Draft) (pattern : Pattern)
    (accepted : decode none draft = .ok pattern) :
    ∃ datum, draft.datum? = some datum ∧ Denotes datum pattern := by
  cases draft with
  | text lexeme =>
    rw [Draft.datum?]
    rcases (decode_text lexeme pattern).mp accepted with ⟨known, rfl⟩ | ⟨known, rfl⟩
    · exact ⟨_, by rw [known]; rfl, .bareSlash⟩
    · exact ⟨_, by rw [known]; rfl, .bareDot⟩
  | object members =>
    rw [decode_object] at accepted
    cases members with
    | stop ending => exact absurd accepted (decodeTagged_stop ending pattern)
    | member key value others =>
      obtain ⟨kind, known, body, rfl⟩ := (decodeTagged_eq_ok key value others pattern).mp accepted
      have tagged (datum : Datum) (knownValue : value.datum? = some datum) :=
        (datum_eq_tagged _ kind.tag datum).mpr ⟨key, value, rfl, known, knownValue⟩
      cases kind with
      | literal =>
        obtain ⟨text, read, rfl⟩ := (map_eq_ok _ _ _).mp body
        exact ⟨_, tagged _ ((Draft.string_eq_ok value text).mp read), .literal text⟩
      | slash =>
        obtain ⟨_, read, rfl⟩ := (map_eq_ok _ _ _).mp body
        exact ⟨_, tagged _ ((Draft.unit_eq_ok value ()).mp read), .slash⟩
      | dot =>
        obtain ⟨_, read, rfl⟩ := (map_eq_ok _ _ _).mp body
        exact ⟨_, tagged _ ((Draft.unit_eq_ok value ()).mp read), .dot⟩
      | symbol =>
        obtain ⟨name, read, rfl⟩ := (map_eq_ok _ _ _).mp body
        exact ⟨_, tagged _ ((Draft.string_eq_ok value name).mp read), .symbol name⟩
      | star =>
        obtain ⟨child, read, rfl⟩ := (map_eq_ok _ _ _).mp body
        obtain ⟨datum, knownValue, denotes⟩ := decode_sound value child read
        exact ⟨_, tagged datum knownValue, .star denotes⟩
      | cat =>
        obtain ⟨first, second, left, right, rfl, readLeft, readRight, rfl⟩ :=
          (decodeOperands_eq_ok value pattern).mp body
        obtain ⟨leftDatum, knownLeft, denotesLeft⟩ := decode_sound first left readLeft
        obtain ⟨rightDatum, knownRight, denotesRight⟩ := decode_sound second right readRight
        have pair : (Items.item first (.item second (.stop .closed))).data? =
            some [leftDatum, rightDatum] := by
          simp [Items.data?, knownLeft, knownRight]
        exact ⟨_, tagged (.list [leftDatum, rightDatum]) (by rw [Draft.datum?, pair]; rfl),
          .cat denotesLeft denotesRight⟩
      | or =>
        obtain ⟨branches, read, rfl⟩ := (map_eq_ok _ _ _).mp body
        obtain ⟨items, rfl, readItems⟩ := (decodeBranches_eq_ok value branches).mp read
        obtain ⟨data, knownItems, denotes⟩ := decodeItems_sound items branches readItems
        exact ⟨_, tagged (.list data) (by rw [Draft.datum?, knownItems]; rfl), .or denotes⟩
      | group =>
        obtain ⟨child, read, rfl⟩ := (map_eq_ok _ _ _).mp body
        obtain ⟨datum, knownValue, denotes⟩ := decode_sound value child read
        exact ⟨_, tagged datum knownValue, .group denotes⟩
  | _ => exact absurd accepted (by simp [decode])

theorem decodeItems_sound (items : Items) (branches : List Pattern)
    (accepted : decodeItems none items = .ok branches) :
    ∃ data, items.data? = some data ∧ DenotesEach data branches := by
  cases items with
  | stop ending =>
    rw [decodeItems, bind_eq_ok] at accepted
    obtain ⟨done, closed, same⟩ := accepted
    rw [lift_eq_ok, check_eq_ok] at closed
    cases closed
    cases same
    exact ⟨[], rfl, .nil⟩
  | item first others =>
    rw [decodeItems, bind_eq_ok] at accepted
    obtain ⟨branch, readFirst, accepted⟩ := accepted
    rw [bind_eq_ok] at accepted
    obtain ⟨rest, readOthers, same⟩ := accepted
    cases same
    obtain ⟨datum, known, denotes⟩ := decode_sound first branch readFirst
    obtain ⟨data, knownOthers, denotesOthers⟩ := decodeItems_sound others rest readOthers
    exact ⟨datum :: data, (item_data_eq_some _ _ _).mpr ⟨_, _, known, knownOthers, rfl⟩,
      .cons denotes denotesOthers⟩

end

theorem decode_tagged (draft : Draft) (kind : Kind) (body : Datum) (pattern : Pattern)
    (known : draft.datum? = some (.tagged kind.tag body))
    (accepted : ∀ value : Draft, value.datum? = some body → decodeBody kind value = .ok pattern) :
    decode none draft = .ok pattern := by
  obtain ⟨key, value, rfl, knownKey, knownValue⟩ := (datum_eq_tagged draft kind.tag body).mp known
  rw [decode_object, decodeTagged_eq_ok]
  exact ⟨kind, knownKey, accepted value knownValue, rfl⟩

theorem decode_bare (draft : Draft) (pattern : Pattern)
    (bare : draft.datum? = some (.string "slash") ∧ pattern = .slash ∨
      draft.datum? = some (.string "dot") ∧ pattern = .dot) : decode none draft = .ok pattern := by
  rcases bare with ⟨known, rfl⟩ | ⟨known, rfl⟩
  · obtain ⟨lexeme, rfl, written⟩ := (Draft.datum_eq_some _ _).mp known
    exact (decode_text lexeme .slash).mpr (Or.inl ⟨written, rfl⟩)
  · obtain ⟨lexeme, rfl, written⟩ := (Draft.datum_eq_some _ _).mp known
    exact (decode_text lexeme .dot).mpr (Or.inr ⟨written, rfl⟩)

mutual

theorem decode_complete (datum : Datum) (pattern : Pattern) (denotes : Denotes datum pattern)
    (draft : Draft) (known : draft.datum? = some datum) : decode none draft = .ok pattern := by
  match denotes with
  | .bareSlash => exact decode_bare draft .slash (Or.inl ⟨known, rfl⟩)
  | .bareDot => exact decode_bare draft .dot (Or.inr ⟨known, rfl⟩)
  | .slash =>
    apply decode_tagged draft .slash .null _ known
    intro value knownValue
    exact (map_eq_ok _ _ _).mpr ⟨(), (Draft.unit_eq_ok value ()).mpr knownValue, rfl⟩
  | .dot =>
    apply decode_tagged draft .dot .null _ known
    intro value knownValue
    exact (map_eq_ok _ _ _).mpr ⟨(), (Draft.unit_eq_ok value ()).mpr knownValue, rfl⟩
  | .literal text =>
    apply decode_tagged draft .literal (.string text) _ known
    intro value knownValue
    exact (map_eq_ok _ _ _).mpr ⟨text, (Draft.string_eq_ok value text).mpr knownValue, rfl⟩
  | .symbol name =>
    apply decode_tagged draft .symbol (.string name) _ known
    intro value knownValue
    exact (map_eq_ok _ _ _).mpr ⟨name, (Draft.string_eq_ok value name).mpr knownValue, rfl⟩
  | .star below =>
    apply decode_tagged draft .star _ _ known
    intro value knownValue
    exact (map_eq_ok _ _ _).mpr ⟨_, decode_complete _ _ below value knownValue, rfl⟩
  | .group below =>
    apply decode_tagged draft .group _ _ known
    intro value knownValue
    exact (map_eq_ok _ _ _).mpr ⟨_, decode_complete _ _ below value knownValue, rfl⟩
  | .cat left right =>
    apply decode_tagged draft .cat _ _ known
    intro value knownValue
    obtain ⟨items, rfl, knownItems⟩ := (Draft.datum_eq_some _ _).mp knownValue
    obtain ⟨first, others, knownFirst, knownOthers, rfl⟩ := items_data_cons items _ _ knownItems
    obtain ⟨second, rest, knownSecond, knownRest, rfl⟩ := items_data_cons others _ _ knownOthers
    rw [(items_data_nil rest).mp knownRest]
    exact (decodeOperands_eq_ok _ _).mpr ⟨first, second, _, _, rfl,
      decode_complete _ _ left first knownFirst, decode_complete _ _ right second knownSecond, rfl⟩
  | .or each =>
    apply decode_tagged draft .or _ _ known
    intro value knownValue
    obtain ⟨items, rfl, knownItems⟩ := (Draft.datum_eq_some _ _).mp knownValue
    have read := decodeItems_complete _ _ each items knownItems
    exact (map_eq_ok _ _ _).mpr ⟨_, (decodeBranches_eq_ok _ _).mpr ⟨items, rfl, read⟩, rfl⟩

theorem decodeItems_complete (data : List Datum) (branches : List Pattern)
    (each : DenotesEach data branches) (items : Items) (known : items.data? = some data) :
    decodeItems none items = .ok branches := by
  match each with
  | .nil =>
    rw [(items_data_nil items).mp known]
    rfl
  | .cons denotes others =>
    obtain ⟨first, rest, knownFirst, knownRest, rfl⟩ := items_data_cons items _ _ known
    rw [decodeItems, decode_complete _ _ denotes first knownFirst,
      decodeItems_complete _ _ others rest knownRest]
    rfl

end

theorem decode_eq_ok (draft : Draft) (pattern : Pattern) :
    decode none draft = .ok pattern ↔
      ∃ datum, draft.datum? = some datum ∧ Denotes datum pattern := by
  constructor
  · exact decode_sound draft pattern
  · intro found
    obtain ⟨datum, known, denotes⟩ := found
    exact decode_complete datum pattern denotes draft known

theorem read_eq_ok (text : String) (pattern : Pattern) :
    read text = .ok pattern ↔ ∃ datum, Padded datum text.toList ∧ Denotes datum pattern :=
  Json.read_eq_ok_iff (decode none) Denotes decode_eq_ok text pattern

theorem read_eq_ok_of_padded (text : String) (datum : Datum) (pattern : Pattern)
    (padded : Padded datum text.toList) : read text = .ok pattern ↔ Denotes datum pattern := by
  rw [read_eq_ok]
  constructor
  · intro found
    obtain ⟨other, paddedOther, denotes⟩ := found
    rwa [padded_unique text.toList datum other padded paddedOther]
  · intro denotes
    exact ⟨datum, padded, denotes⟩

/-- The value of a pattern is closed by a quote or a brace, so that anything may follow it. -/
theorem denotes_endsBefore (rest : List Char) (datum : Datum) (pattern : Pattern)
    (denotes : Denotes datum pattern) : EndsBefore rest datum := by
  cases denotes <;> trivial

theorem read_trailing (text : String) (pattern : Pattern) (rest : String)
    (accepted : read text = .ok pattern) (more : ¬ Spaces rest.toList) :
    read (text ++ rest) = .error (.malformed .trailingText) := by
  obtain ⟨datum, padded, denotes⟩ := (read_eq_ok text pattern).mp accepted
  have ended := denotes_endsBefore rest.toList datum pattern denotes
  exact Json.read_trailing (decode none) text rest datum pattern padded ended more
    (decode_complete datum pattern denotes)

/-- Reading accepts just the grammar of patterns: a text that writes, with white space around it, a
value that denotes the pattern. Neither the white space nor the escapes are part of the value, so
that texts of one value are read alike. Nothing but white space may follow. -/
theorem read_accepts_grammar (text : String) :
    (∀ pattern, read text = .ok pattern ↔
      ∃ datum, Padded datum text.toList ∧ Denotes datum pattern) ∧
    (∀ datum (other : String), Padded datum text.toList → Padded datum other.toList →
      ∀ pattern, read text = .ok pattern ↔ read other = .ok pattern) ∧
    ∀ pattern (rest : String), read text = .ok pattern → ¬ Spaces rest.toList →
      read (text ++ rest) = .error (.malformed .trailingText) := by
  refine ⟨read_eq_ok text, ?_, read_trailing text⟩
  intro datum other padded paddedOther pattern
  rw [read_eq_ok_of_padded text datum pattern padded,
    read_eq_ok_of_padded other datum pattern paddedOther]

theorem read_accepts_grammar_slash :
    read "\"slash\"" = .ok .slash ∧
    (∀ pattern, read "\"slash\"" = .ok pattern ↔ read " \"sl\\u0061sh\"\n" = .ok pattern) ∧
    read ("\"slash\"" ++ " x") = .error (.malformed .trailingText) := by
  have plain : Padded (.string "slash") "\"slash\"".toList := (stringText_spells "slash").padded
  have body : SpellsString (units "slash") "sl\\u0061sh".toList :=
    .cons (.plain 's' (by decide) (by decide) (by decide)) <|
    .cons (.plain 'l' (by decide) (by decide) (by decide)) <|
    .cons (.digits 97 '0' '0' '6' '1' (by decide)) <|
    .cons (.plain 's' (by decide) (by decide) (by decide)) <|
    .cons (.plain 'h' (by decide) (by decide) (by decide)) .nil
  have escaped : Padded (.string "slash") " \"sl\\u0061sh\"\n".toList :=
    .intro (show Spaces [' '] by decide) (.text body) (show Spaces ['\n'] by decide)
  obtain ⟨grammar, alike, closed⟩ := read_accepts_grammar "\"slash\""
  have accepted := (grammar .slash).mpr ⟨.string "slash", plain, .bareSlash⟩
  exact ⟨accepted, alike (.string "slash") _ plain escaped, closed .slash " x" accepted (by decide)⟩

mutual

theorem toJson_denotes (pattern : Pattern) : Denotes pattern.toJson.datum pattern := by
  match pattern with
  | .literal text => exact .literal text
  | .slash => exact .bareSlash
  | .dot => exact .bareDot
  | .symbol name => exact .symbol name
  | .star child => exact .star (toJson_denotes child)
  | .cat left right => exact .cat (toJson_denotes left) (toJson_denotes right)
  | .or branches => exact .or (branchesToJson_denotes branches)
  | .group child => exact .group (toJson_denotes child)

theorem branchesToJson_denotes (branches : List Pattern) :
    DenotesEach (Json.Value.itemData (branchesToJson branches)) branches := by
  match branches with
  | [] => exact .nil
  | branch :: others => exact .cons (toJson_denotes branch) (branchesToJson_denotes others)

end

/-- A pattern comes back from the text that is written for it, just as it is. -/
theorem read_compact (pattern : Pattern) : read pattern.toJson.compact = .ok pattern := by
  rw [read_eq_ok]
  exact ⟨pattern.toJson.datum, pattern.toJson.compact_spells.padded, toJson_denotes pattern⟩

end Pattern

end RouteTemplate
