import RouteTemplate.Proofs.Json.Parsing
import RouteTemplate.Proofs.Json.Scanning

/-!
Reading a text against the grammar. `ofText_iff` says that a text is read as a document of some
value just where the grammar writes that value so, with white space around it. The tokens in between
belong to neither side: what they spell is found by `draft_spelled` and its companions, and what is
spelled is scanned again by `spells_scan`.
-/

namespace RouteTemplate.Json

open Token (scan scan_sound scan_single scan_spaces Begins)

theorem word_spelled (word : Word) (datum : Datum)
    (known : (Draft.word (.ok word)).datum? = some datum) (text : List Char)
    (spelled : SpellsToken (.word (.ok word)) text) : Spells datum text := by
  cases spelled <;> cases known
  · exact .null
  · exact .true
  · exact .false

theorem string_spelled (lexeme : Lexeme) (units : List Nat) (known : lexeme.units? = some units)
    (text : List Char) (tokens : List Token) (scanned : scan text = .text lexeme :: tokens) :
    Begins (fun inner => ∃ name, inner = '"' :: name ++ ['"'] ∧ SpellsString units name) text
      tokens := by
  have closed := closed_of_units lexeme units known
  apply (scan_sound text _ _ scanned closed).imp
  intro inner spelled
  cases spelled with
  | text same spelled =>
    rw [known] at same
    cases same
    exact ⟨_, rfl, spelled⟩

theorem member_spelled (key : Lexeme) (units : List Nat) (known : key.units? = some units)
    (datum : Datum) (text : List Char) (tokens others : List Token)
    (scanned : scan text = .text key :: .colon :: tokens)
    (value : ∀ rest, scan rest = tokens → Begins (Spells datum) rest others) :
    ∃ written rest, text = written ++ rest ∧
      (∀ after, Spaces after → SpellsMember (units, datum) (written ++ after)) ∧
      scan rest = others := by
  obtain ⟨before, _, rest, rfl, blank, ⟨name, rfl, named⟩, scannedRest⟩ :=
    string_spelled key units known text _ scanned
  obtain ⟨between, _, rest, rfl, blankBetween, spelled, scannedValue⟩ :=
    scan_sound rest .colon tokens scannedRest trivial
  cases spelled
  obtain ⟨beforeValue, inner, rest, rfl, blankValue, spells, scannedOthers⟩ :=
    value rest scannedValue
  refine ⟨before ++ '"' :: name ++ '"' :: between ++ ':' :: (beforeValue ++ inner), rest,
    by simp, ?_, scannedOthers⟩
  intro after blankAfter
  have member := SpellsMember.intro blank named blankBetween (.intro blankValue spells blankAfter)
  simpa using member

mutual

theorem draft_spelled (draft : Draft) (datum : Datum) (known : draft.datum? = some datum)
    (text : List Char) (tokens : List Token) (scanned : scan text = draft.tokens ++ tokens) :
    Begins (Spells datum) text tokens := by
  cases draft with
  | cutOff => simp [Draft.datum?] at known
  | stray => simp [Draft.datum?] at known
  | word word =>
    cases word with
    | error fault => simp [Draft.datum?] at known
    | ok word => exact (scan_sound text _ _ scanned ⟨word, rfl⟩).imp (word_spelled word datum known)
  | number number =>
    cases number with
    | error fault => simp [Draft.datum?] at known
    | ok numeral =>
      apply (scan_sound text _ _ scanned ⟨numeral, rfl⟩).imp
      intro inner spelled
      cases spelled with
      | number spelled =>
        cases known
        exact .number spelled
  | text lexeme =>
    obtain ⟨units, knownUnits, rfl⟩ := Option.map_eq_some_iff.mp known
    apply (string_spelled lexeme units knownUnits text tokens scanned).imp
    intro inner spelled
    obtain ⟨name, rfl, spelled⟩ := spelled
    exact .text spelled
  | list items =>
    obtain ⟨data, knownData, rfl⟩ := Option.map_eq_some_iff.mp known
    obtain ⟨before, _, rest, rfl, blank, spelled, scannedRest⟩ :=
      scan_sound text .openList _ scanned trivial
    cases spelled
    obtain ⟨inner, after, rfl, spelled, scannedAfter⟩ :=
      items_spelled items data knownData rest tokens scannedRest
    refine ⟨before, '[' :: inner ++ [']'], after, by simp, blank, ?_, scannedAfter⟩
    cases spelled with
    | inl empty =>
      obtain ⟨rfl, blank⟩ := empty
      exact .noItems blank
    | inr spelled => exact .items spelled
  | object members =>
    obtain ⟨data, knownData, rfl⟩ := Option.map_eq_some_iff.mp known
    obtain ⟨before, _, rest, rfl, blank, spelled, scannedRest⟩ :=
      scan_sound text .openObject _ scanned trivial
    cases spelled
    obtain ⟨inner, after, rfl, spelled, scannedAfter⟩ :=
      members_spelled members data knownData rest tokens scannedRest
    refine ⟨before, '\x7b' :: inner ++ ['\x7d'], after, by simp, blank, ?_, scannedAfter⟩
    cases spelled with
    | inl empty =>
      obtain ⟨rfl, blank⟩ := empty
      exact .noMembers blank
    | inr spelled => exact .members spelled

theorem items_spelled (items : Items) (data : List Datum) (known : items.data? = some data)
    (text : List Char) (tokens : List Token) (scanned : scan text = items.tokens ++ tokens) :
    ∃ inner rest, text = inner ++ ']' :: rest ∧
      (data = [] ∧ Spaces inner ∨ SpellsItems data inner) ∧ scan rest = tokens := by
  cases items with
  | stop ending =>
    obtain ⟨_, rfl⟩ := items_stop_data ending data known
    obtain ⟨before, _, rest, rfl, blank, spelled, scannedRest⟩ :=
      scan_sound text .closeList tokens scanned trivial
    cases spelled
    exact ⟨before, rest, rfl, Or.inl ⟨rfl, blank⟩, scannedRest⟩
  | item first others =>
    obtain ⟨datum, restData, knownFirst, knownOthers, rfl⟩ := (item_data_eq_some _ _ _).mp known
    rw [Items.tokens, List.append_assoc] at scanned
    obtain ⟨before, inner, rest, rfl, blank, spelled, scannedRest⟩ :=
      draft_spelled first datum knownFirst text _ scanned
    obtain ⟨more, last, rfl, spelledMore, scannedLast⟩ :=
      following_spelled others restData knownOthers rest tokens scannedRest
    have items := spelledMore datum (before ++ inner) fun after => .intro blank spelled
    exact ⟨before ++ inner ++ more, last, by simp, Or.inr items, scannedLast⟩

/-- What follows an item is added to whatever spells that item, since the white space after the item
is only known from here. -/
theorem following_spelled (items : Items) (data : List Datum) (known : items.data? = some data)
    (text : List Char) (tokens : List Token) (scanned : scan text = items.following ++ tokens) :
    ∃ more rest, text = more ++ ']' :: rest ∧
      (∀ datum written, (∀ after, Spaces after → Padded datum (written ++ after)) →
        SpellsItems (datum :: data) (written ++ more)) ∧ scan rest = tokens := by
  cases items with
  | stop ending =>
    obtain ⟨_, rfl⟩ := items_stop_data ending data known
    obtain ⟨after, _, rest, rfl, blank, spelled, scannedRest⟩ :=
      scan_sound text .closeList tokens scanned trivial
    cases spelled
    exact ⟨after, rest, rfl, fun datum written padded => .last (padded after blank), scannedRest⟩
  | item first others =>
    obtain ⟨firstDatum, restData, knownFirst, knownOthers, rfl⟩ :=
      (item_data_eq_some _ _ _).mp known
    rw [Items.following, List.cons_append, List.append_assoc] at scanned
    obtain ⟨after, _, rest, rfl, blank, spelled, scannedRest⟩ :=
      scan_sound text .comma _ scanned trivial
    cases spelled
    obtain ⟨before, inner, rest, rfl, blankBefore, spells, scannedOthers⟩ :=
      draft_spelled first firstDatum knownFirst rest _ scannedRest
    obtain ⟨more, last, rfl, spelledMore, scannedLast⟩ :=
      following_spelled others restData knownOthers rest tokens scannedOthers
    refine ⟨after ++ ',' :: (before ++ inner ++ more), last, by simp, ?_, scannedLast⟩
    intro datum written padded
    have items := SpellsItems.more (padded after blank)
      (spelledMore firstDatum (before ++ inner) fun after => .intro blankBefore spells)
    simpa using items

theorem members_spelled (members : Members) (data : List (List Nat × Datum))
    (known : members.data? = some data) (text : List Char) (tokens : List Token)
    (scanned : scan text = members.tokens ++ tokens) :
    ∃ inner rest, text = inner ++ '\x7d' :: rest ∧
      (data = [] ∧ Spaces inner ∨ SpellsMembers data inner) ∧ scan rest = tokens := by
  cases members with
  | stop ending =>
    obtain ⟨_, rfl⟩ := members_stop_data ending data known
    obtain ⟨before, _, rest, rfl, blank, spelled, scannedRest⟩ :=
      scan_sound text .closeObject tokens scanned trivial
    cases spelled
    exact ⟨before, rest, rfl, Or.inl ⟨rfl, blank⟩, scannedRest⟩
  | member key value others =>
    obtain ⟨units, datum, restData, knownKey, knownValue, knownOthers, rfl⟩ :=
      (member_data_eq_some _ _ _ _).mp known
    rw [Members.tokens, List.cons_append, List.cons_append, List.append_assoc] at scanned
    obtain ⟨written, rest, rfl, spelled, scannedRest⟩ :=
      member_spelled key units knownKey datum text _ _ scanned fun rest =>
        draft_spelled value datum knownValue rest _
    obtain ⟨more, last, rfl, spelledMore, scannedLast⟩ :=
      followingMembers_spelled others restData knownOthers rest tokens scannedRest
    have members := spelledMore (units, datum) written spelled
    exact ⟨written ++ more, last, by simp, Or.inr members, scannedLast⟩

theorem followingMembers_spelled (members : Members) (data : List (List Nat × Datum))
    (known : members.data? = some data) (text : List Char) (tokens : List Token)
    (scanned : scan text = members.following ++ tokens) :
    ∃ more rest, text = more ++ '\x7d' :: rest ∧
      (∀ member written, (∀ after, Spaces after → SpellsMember member (written ++ after)) →
        SpellsMembers (member :: data) (written ++ more)) ∧ scan rest = tokens := by
  cases members with
  | stop ending =>
    obtain ⟨_, rfl⟩ := members_stop_data ending data known
    obtain ⟨after, _, rest, rfl, blank, spelled, scannedRest⟩ :=
      scan_sound text .closeObject tokens scanned trivial
    cases spelled
    exact ⟨after, rest, rfl, fun member written spelled => .last (spelled after blank), scannedRest⟩
  | member key value others =>
    obtain ⟨units, datum, restData, knownKey, knownValue, knownOthers, rfl⟩ :=
      (member_data_eq_some _ _ _ _).mp known
    rw [Members.following, List.cons_append, List.cons_append, List.cons_append,
      List.append_assoc] at scanned
    obtain ⟨after, _, rest, rfl, blank, spelled, scannedRest⟩ :=
      scan_sound text .comma _ scanned trivial
    cases spelled
    obtain ⟨next, rest, rfl, spelledNext, scannedNext⟩ :=
      member_spelled key units knownKey datum rest _ _ scannedRest fun rest =>
        draft_spelled value datum knownValue rest _
    obtain ⟨more, last, rfl, spelledMore, scannedLast⟩ :=
      followingMembers_spelled others restData knownOthers rest tokens scannedNext
    refine ⟨after ++ ',' :: (next ++ more), last, by simp, ?_, scannedLast⟩
    intro member written spelled
    have members := SpellsMembers.more (spelled after blank)
      (spelledMore (units, datum) next spelledNext)
    simpa using members

end

/-- Whether the value ends in front of the text; only a number might go on. -/
def EndsBefore (rest : List Char) : Datum → Prop
  | .number _ => Delimited rest
  | _ => True

theorem delimited_cons (c : Char) (rest : List Char)
    (other : digit? c = none ∧ c ≠ '.' ∧ c ≠ 'e' ∧ c ≠ 'E') : Delimited (c :: rest) := by
  intro first member
  cases member
  exact other

theorem delimited_spaces (spaces rest : List Char) (blank : Spaces spaces)
    (delimited : Delimited rest) : Delimited (spaces ++ rest) := by
  cases spaces with
  | nil => exact delimited
  | cons c spaces =>
    apply delimited_cons
    have space := blank c List.mem_cons_self
    simp only [isSpace, Bool.or_eq_true, beq_iff_eq] at space
    rcases space with ((rfl | rfl) | rfl) | rfl <;> decide

theorem EndsBefore.of_delimited {rest : List Char} (datum : Datum) (delimited : Delimited rest) :
    EndsBefore rest datum := by
  cases datum <;> first | exact delimited | trivial

theorem EndsBefore.of_separator (c : Char) (rest : List Char) (datum : Datum)
    (separator : c = ',' ∨ c = ']' ∨ c = '\x7d') : EndsBefore (c :: rest) datum := by
  apply EndsBefore.of_delimited
  apply delimited_cons
  rcases separator with rfl | rfl | rfl <;> decide

theorem EndsBefore.of_spaces (spaces rest : List Char) (datum : Datum) (blank : Spaces spaces)
    (ended : EndsBefore rest datum) : EndsBefore (spaces ++ rest) datum := by
  cases datum with
  | number numeral => exact delimited_spaces spaces rest blank ended
  | _ => trivial

theorem list_scan (items : Items) (inner : List Char)
    (scanned : ∀ rest, scan (inner ++ ']' :: rest) = items.tokens ++ scan rest) (rest : List Char) :
    scan ('[' :: inner ++ [']'] ++ rest) = (Draft.list items).tokens ++ scan rest := by
  have all := scan_single '[' (inner ++ ']' :: rest) .openList rfl rfl
  rw [scanned] at all
  simpa [Draft.tokens] using all

theorem object_scan (members : Members) (inner : List Char)
    (scanned : ∀ rest, scan (inner ++ '\x7d' :: rest) = members.tokens ++ scan rest)
    (rest : List Char) :
    scan ('\x7b' :: inner ++ ['\x7d'] ++ rest) = (Draft.object members).tokens ++ scan rest := by
  have all := scan_single '\x7b' (inner ++ '\x7d' :: rest) .openObject rfl rfl
  rw [scanned] at all
  simpa [Draft.tokens] using all

-- By recursion on the derivation. The white space after a value is skipped before what follows it
-- is scanned, so that a number needs to end only where its padding does.
mutual

theorem spells_scan (datum : Datum) (text : List Char) (spells : Spells datum text) :
    ∃ draft : Draft, draft.datum? = some datum ∧
      ∀ rest, EndsBefore rest datum → scan (text ++ rest) = draft.tokens ++ scan rest := by
  match spells with
  | .null => exact ⟨.word (.ok .null), rfl, fun rest _ => Token.scan_null rest⟩
  | .false => exact ⟨.word (.ok .false), rfl, fun rest _ => Token.scan_false rest⟩
  | .true => exact ⟨.word (.ok .true), rfl, fun rest _ => Token.scan_true rest⟩
  | .number spelled =>
    exact ⟨.number (.ok _), rfl, fun rest delimited => Token.scan_number _ _ rest spelled delimited⟩
  | .text spelled =>
    obtain ⟨lexeme, known, scanned⟩ := Token.scan_string _ _ spelled
    refine ⟨.text lexeme, by rw [Draft.datum?, known]; rfl, ?_⟩
    intro rest _
    have all := scanned rest
    simpa [Draft.tokens] using all
  | .noItems blank =>
    refine ⟨.list (.stop .closed), rfl, fun rest _ => list_scan _ _ ?_ rest⟩
    intro rest
    rw [scan_spaces _ _ blank, scan_single ']' rest .closeList rfl rfl]
    rfl
  | .items spelled =>
    obtain ⟨items, known, _, scanned⟩ := items_scan _ _ spelled
    exact ⟨.list items, by rw [Draft.datum?, known]; rfl, fun rest _ => list_scan _ _ scanned rest⟩
  | .noMembers blank =>
    refine ⟨.object (.stop .closed), rfl, fun rest _ => object_scan _ _ ?_ rest⟩
    intro rest
    rw [scan_spaces _ _ blank, scan_single '\x7d' rest .closeObject rfl rfl]
    rfl
  | .members spelled =>
    obtain ⟨members, known, _, scanned⟩ := members_scan _ _ spelled
    exact ⟨.object members, by rw [Draft.datum?, known]; rfl,
      fun rest _ => object_scan _ _ scanned rest⟩

theorem padded_scan (datum : Datum) (text : List Char) (padded : Padded datum text) :
    ∃ draft : Draft, draft.datum? = some datum ∧
      ∀ rest, EndsBefore rest datum → scan (text ++ rest) = draft.tokens ++ scan rest := by
  match padded with
  | .intro blankBefore spelled blankAfter =>
    obtain ⟨draft, known, scanned⟩ := spells_scan _ _ spelled
    refine ⟨draft, known, ?_⟩
    intro rest ended
    rw [List.append_assoc, List.append_assoc, scan_spaces _ _ blankBefore,
      scanned _ (.of_spaces _ rest datum blankAfter ended), scan_spaces _ rest blankAfter]

theorem items_scan (data : List Datum) (text : List Char) (spells : SpellsItems data text) :
    ∃ items : Items, items.data? = some data ∧ items.following = .comma :: items.tokens ∧
      ∀ rest, scan (text ++ ']' :: rest) = items.tokens ++ scan rest := by
  match spells with
  | @SpellsItems.last datum _ padded =>
    obtain ⟨draft, known, scanned⟩ := padded_scan _ _ padded
    refine ⟨.item draft (.stop .closed), ?_, rfl, ?_⟩
    · exact (item_data_eq_some _ _ _).mpr ⟨datum, [], known, rfl, rfl⟩
    · intro rest
      rw [scanned _ (.of_separator ']' rest datum (by simp)),
        scan_single ']' rest .closeList rfl rfl]
      simp [Items.tokens, Items.following]
  | @SpellsItems.more datum others _ text padded following =>
    obtain ⟨draft, known, scanned⟩ := padded_scan _ _ padded
    obtain ⟨items, knownOthers, begins, scannedOthers⟩ := items_scan _ _ following
    refine ⟨.item draft items, ?_, rfl, ?_⟩
    · exact (item_data_eq_some _ _ _).mpr ⟨datum, others, known, knownOthers, rfl⟩
    · intro rest
      rw [List.append_assoc, List.cons_append, scanned _ (.of_separator ',' _ datum (by simp)),
        scan_single ',' _ .comma rfl rfl, scannedOthers, Items.tokens, begins]
      simp

theorem member_scan (member : List Nat × Datum) (text : List Char)
    (spells : SpellsMember member text) :
    ∃ (key : Lexeme) (value : Draft), key.units? = some member.1 ∧ value.datum? = some member.2 ∧
      ∀ rest, EndsBefore rest member.2 →
        scan (text ++ rest) = .text key :: .colon :: (value.tokens ++ scan rest) := by
  match spells with
  | @SpellsMember.intro units datum before name after text blankBefore named blankAfter padded =>
    obtain ⟨key, knownKey, scannedKey⟩ := Token.scan_string _ _ named
    obtain ⟨value, known, scanned⟩ := padded_scan _ _ padded
    refine ⟨key, value, knownKey, known, ?_⟩
    intro rest ended
    have split : before ++ '"' :: name ++ '"' :: after ++ ':' :: text ++ rest =
        before ++ ('"' :: name ++ '"' :: (after ++ ':' :: (text ++ rest))) := by simp
    rw [split, scan_spaces before _ blankBefore, scannedKey, scan_spaces after _ blankAfter,
      scan_single ':' _ .colon rfl rfl, scanned rest ended]

theorem members_scan (data : List (List Nat × Datum)) (text : List Char)
    (spells : SpellsMembers data text) :
    ∃ members : Members, members.data? = some data ∧ members.following = .comma :: members.tokens ∧
      ∀ rest, scan (text ++ '\x7d' :: rest) = members.tokens ++ scan rest := by
  match spells with
  | @SpellsMembers.last member _ spelled =>
    obtain ⟨key, value, knownKey, known, scanned⟩ := member_scan _ _ spelled
    refine ⟨.member key value (.stop .closed), ?_, rfl, ?_⟩
    · exact (member_data_eq_some _ _ _ _).mpr ⟨member.1, member.2, [], knownKey, known, rfl, rfl⟩
    · intro rest
      rw [scanned _ (.of_separator '\x7d' rest member.2 (by simp)),
        scan_single '\x7d' rest .closeObject rfl rfl]
      simp [Members.tokens, Members.following]
  | @SpellsMembers.more member others _ text spelled following =>
    obtain ⟨key, value, knownKey, known, scanned⟩ := member_scan _ _ spelled
    obtain ⟨members, knownOthers, begins, scannedOthers⟩ := members_scan _ _ following
    refine ⟨.member key value members, ?_, rfl, ?_⟩
    · exact (member_data_eq_some _ _ _ _).mpr
        ⟨member.1, member.2, others, knownKey, known, knownOthers, rfl⟩
    · intro rest
      rw [List.append_assoc, List.cons_append, scanned _ (.of_separator ',' _ member.2 (by simp)),
        scan_single ',' _ .comma rfl rfl, scannedOthers, Members.tokens, begins]
      simp

end

namespace Document

theorem ofText_iff (text : String) (datum : Datum) :
    (∃ root : Draft, ofText text = ⟨root, false⟩ ∧ root.datum? = some datum) ↔
      Padded datum text.toList := by
  constructor
  · intro found
    obtain ⟨root, same, known⟩ := found
    have scanned := (ofTokens_eq_iff _ root datum known).mp same
    obtain ⟨before, inner, rest, split, blank, spelled, after⟩ :=
      draft_spelled root datum known text.toList [] (by rw [scanned, List.append_nil])
    rw [split, ← List.append_assoc]
    exact .intro blank spelled (Token.scan_eq_nil rest after)
  · intro padded
    obtain ⟨root, known, scanned⟩ := padded_scan datum text.toList padded
    have ended : EndsBefore [] datum := .of_delimited datum fun c first => by cases first
    have all := scanned [] ended
    rw [List.append_nil, Token.scan_nil, List.append_nil] at all
    exact ⟨root, (ofTokens_eq_iff _ root datum known).mpr all, known⟩

theorem ofText_trailing (text rest : String) (datum : Datum) (padded : Padded datum text.toList)
    (ended : EndsBefore rest.toList datum) (more : ¬ Spaces rest.toList) :
    ∃ root : Draft, ofText (text ++ rest) = ⟨root, true⟩ ∧ root.datum? = some datum := by
  obtain ⟨root, known, scanned⟩ := padded_scan datum text.toList padded
  refine ⟨root, ?_, known⟩
  rw [ofText, String.toList_append, scanned rest.toList ended]
  cases tokens : scan rest.toList with
  | nil => exact absurd (Token.scan_eq_nil rest.toList tokens) more
  | cons token others => exact ofTokens_trailing root datum known token others

end Document

theorem padded_unique (text : List Char) (datum other : Datum) (padded : Padded datum text)
    (same : Padded other text) : datum = other := by
  rw [← String.toList_ofList (l := text)] at padded same
  obtain ⟨root, read, known⟩ := (Document.ofText_iff _ datum).mpr padded
  obtain ⟨otherRoot, readOther, knownOther⟩ := (Document.ofText_iff _ other).mpr same
  rw [read] at readOther
  cases readOther
  rw [known] at knownOther
  exact Option.some.inj knownOther

end RouteTemplate.Json
