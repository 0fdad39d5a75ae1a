import RouteTemplate.Json.Draft
import RouteTemplate.Proofs.Json.Grammar

/-!
The run through the tokens of a text. A draft in which nothing breaks off has a value (`datum?`),
and its tokens can be written down again. A run reads these tokens as that draft, and it ends in
that draft on no other tokens.
-/

namespace RouteTemplate.Json

mutual

/-- The value of a draft, none if the text stops being JSON in it. -/
def Draft.datum? : Draft → Option Datum
  | .cutOff | .stray | .word (.error _) | .number (.error _) => none
  | .word (.ok .null) => some .null
  | .word (.ok .false) => some (.boolean false)
  | .word (.ok .true) => some (.boolean true)
  | .number (.ok numeral) => some (.number numeral)
  | .text lexeme => lexeme.units?.map .text
  | .list items => items.data?.map .list
  | .object members => members.data?.map .object

def Items.data? : Items → Option (List Datum)
  | .stop .closed => some []
  | .stop _ => none
  | .item first others =>
    match first.datum?, others.data? with
    | some datum, some data => some (datum :: data)
    | _, _ => none

def Members.data? : Members → Option (List (List Nat × Datum))
  | .stop .closed => some []
  | .stop _ => none
  | .member key value others =>
    match key.units?, value.datum?, others.data? with
    | some units, some datum, some data => some ((units, datum) :: data)
    | _, _, _ => none

end

mutual

def Draft.tokens : Draft → List Token
  | .cutOff => []
  | .stray => [.stray]
  | .word word => [.word word]
  | .number number => [.number number]
  | .text lexeme => [.text lexeme]
  | .list items => .openList :: items.tokens
  | .object members => .openObject :: members.tokens

def Items.tokens : Items → List Token
  | .stop _ => [.closeList]
  | .item first others => first.tokens ++ others.following

def Items.following : Items → List Token
  | .stop _ => [.closeList]
  | .item first others => .comma :: (first.tokens ++ others.following)

def Members.tokens : Members → List Token
  | .stop _ => [.closeObject]
  | .member key value others => .text key :: .colon :: (value.tokens ++ others.following)

def Members.following : Members → List Token
  | .stop _ => [.closeObject]
  | .member key value others => .comma :: .text key :: .colon :: (value.tokens ++ others.following)

end

theorem item_data_eq_some (first : Draft) (others : Items) (data : List Datum) :
    (Items.item first others).data? = some data ↔
      ∃ datum rest, first.datum? = some datum ∧ others.data? = some rest ∧
        data = datum :: rest := by
  rw [Items.data?]
  cases first.datum? <;> cases others.data? <;> simp [eq_comm]

theorem member_data_eq_some (key : Lexeme) (value : Draft) (others : Members)
    (data : List (List Nat × Datum)) :
    (Members.member key value others).data? = some data ↔
      ∃ units datum rest, key.units? = some units ∧ value.datum? = some datum ∧
        others.data? = some rest ∧ data = (units, datum) :: rest := by
  rw [Members.data?]
  cases key.units? <;> cases value.datum? <;> cases others.data? <;> simp [eq_comm]

theorem items_stop_data (ending : ListEnd) (data : List Datum)
    (known : (Items.stop ending).data? = some data) : ending = .closed ∧ data = [] := by
  cases ending <;> simp [Items.data?] at known
  exact ⟨rfl, known⟩

theorem members_stop_data (ending : ObjectEnd) (data : List (List Nat × Datum))
    (known : (Members.stop ending).data? = some data) : ending = .closed ∧ data = [] := by
  cases ending <;> simp [Members.data?] at known
  exact ⟨rfl, known⟩

theorem tokens_begin (draft : Draft) (datum : Datum) (known : draft.datum? = some datum) :
    ∃ token others, draft.tokens = token :: others ∧ token ≠ .closeList := by
  cases draft with
  | cutOff => simp [Draft.datum?] at known
  | _ => exact ⟨_, _, by rw [Draft.tokens], by simp⟩

namespace State

theorem step_listStart (outer : List Frame) (token : Token) (other : token ≠ .closeList) :
    step (listStart outer) token = step (value (.item [] :: outer)) token := by
  cases token <;> first | rfl | exact absurd rfl other

theorem step_listNext (items : List Draft) (outer : List Frame) (token : Token)
    (other : token ≠ .closeList) :
    step (listNext items outer) token = step (value (.item items :: outer)) token := by
  cases token <;> first | rfl | exact absurd rfl other

theorem run_same (draft : Draft) (datum : Datum) (known : draft.datum? = some datum)
    (state other : State)
    (same : ∀ token, token ≠ .closeList → step state token = step other token) :
    draft.tokens.foldl step state = draft.tokens.foldl step other := by
  obtain ⟨token, others, begins, notClosing⟩ := tokens_begin draft datum known
  rw [begins, List.foldl_cons, List.foldl_cons, same token notClosing]

-- Each opening bracket puts a frame on the stack and `put` takes it off again, so the frames below
-- are the same afterwards, whatever they are.
mutual

theorem run_draft (draft : Draft) (datum : Datum) (known : draft.datum? = some datum)
    (outer : List Frame) : draft.tokens.foldl step (value outer) = put draft outer := by
  cases draft with
  | cutOff => simp [Draft.datum?] at known
  | stray => simp [Draft.datum?] at known
  | word word => rfl
  | number number => rfl
  | text lexeme => rfl
  | list items =>
    obtain ⟨data, known, _⟩ := Option.map_eq_some_iff.mp known
    exact run_items items data known outer
  | object members =>
    obtain ⟨data, known, _⟩ := Option.map_eq_some_iff.mp known
    exact run_members members data known outer

theorem run_items (items : Items) (data : List Datum) (known : items.data? = some data)
    (outer : List Frame) : items.tokens.foldl step (listStart outer) = put (.list items) outer := by
  cases items with
  | stop ending =>
    obtain ⟨rfl, _⟩ := items_stop_data ending data known
    rfl
  | item first others =>
    obtain ⟨datum, rest, knownFirst, knownOthers, _⟩ := (item_data_eq_some _ _ _).mp known
    have read := run_same first datum knownFirst _ _ (step_listStart outer)
    rw [Items.tokens, List.foldl_append, read, run_draft first datum knownFirst]
    exact run_following others rest knownOthers [first] outer

theorem run_following (items : Items) (data : List Datum) (known : items.data? = some data)
    (done : List Draft) (outer : List Frame) :
    items.following.foldl step (afterItem done outer) =
      put (.list (done.foldl (fun others first => .item first others) items)) outer := by
  cases items with
  | stop ending =>
    obtain ⟨rfl, _⟩ := items_stop_data ending data known
    rfl
  | item first others =>
    obtain ⟨datum, rest, knownFirst, knownOthers, _⟩ := (item_data_eq_some _ _ _).mp known
    have read := run_same first datum knownFirst _ _ (step_listNext done outer)
    rw [Items.following, List.foldl_cons, List.foldl_append, step, read,
      run_draft first datum knownFirst]
    exact run_following others rest knownOthers (first :: done) outer

theorem run_members (members : Members) (data : List (List Nat × Datum))
    (known : members.data? = some data) (outer : List Frame) :
    members.tokens.foldl step (objectStart outer) = put (.object members) outer := by
  cases members with
  | stop ending =>
    obtain ⟨rfl, _⟩ := members_stop_data ending data known
    rfl
  | member key value others =>
    obtain ⟨units, datum, rest, _, knownValue, knownOthers, _⟩ :=
      (member_data_eq_some _ _ _ _).mp known
    have read := run_draft value datum knownValue (.member [] key :: outer)
    rw [Members.tokens, List.foldl_cons, List.foldl_cons, List.foldl_append, step, step, read]
    exact run_followingMembers others rest knownOthers [(key, value)] outer

theorem run_followingMembers (members : Members) (data : List (List Nat × Datum))
    (known : members.data? = some data) (done : List (Lexeme × Draft)) (outer : List Frame) :
    members.following.foldl step (afterMember done outer) =
      put (.object (done.foldl (fun others first => .member first.1 first.2 others) members))
        outer := by
  cases members with
  | stop ending =>
    obtain ⟨rfl, _⟩ := members_stop_data ending data known
    rfl
  | member key value others =>
    obtain ⟨units, datum, rest, _, knownValue, knownOthers, _⟩ :=
      (member_data_eq_some _ _ _ _).mp known
    have read := run_draft value datum knownValue (.member done key :: outer)
    rw [Members.following, List.foldl_cons, List.foldl_cons, List.foldl_cons, List.foldl_append,
      step, step, step, read]
    exact run_followingMembers others rest knownOthers ((key, value) :: done) outer

end

end State

theorem ofTokens_complete (root : Draft) (datum : Datum) (known : root.datum? = some datum) :
    Document.ofTokens root.tokens = ⟨root, false⟩ := by
  rw [Document.ofTokens, State.run_draft root datum known]
  rfl

theorem ofTokens_trailing (root : Draft) (datum : Datum) (known : root.datum? = some datum)
    (token : Token) (others : List Token) :
    Document.ofTokens (root.tokens ++ token :: others) = ⟨root, true⟩ := by
  have settled (document : Document) :
      others.foldl State.step (.settled document) = .settled document := by
    induction others with
    | nil => rfl
    | cons token others ih => exact ih
  rw [Document.ofTokens, List.foldl_append, State.run_draft root datum known, List.foldl_cons]
  exact congrArg State.document (settled ⟨root, true⟩)

def commaEnded (entries : List (List Token)) : List Token :=
  entries.reverse.flatMap fun entry => entry ++ [.comma]

theorem commaEnded_cons (last : List Token) (earlier : List (List Token)) :
    commaEnded (last :: earlier) = commaEnded earlier ++ last ++ [.comma] := by
  simp [commaEnded]

def memberTokens (member : Lexeme × Draft) : List Token :=
  .text member.1 :: .colon :: member.2.tokens

def Frame.tokens : Frame → List Token
  | .item items => .openList :: commaEnded (items.map Draft.tokens)
  | .member members key =>
    .openObject :: (commaEnded (members.map memberTokens) ++ [.text key, .colon])

def opened (outer : List Frame) : List Token := outer.reverse.flatMap Frame.tokens

theorem opened_cons (frame : Frame) (outer : List Frame) :
    opened (frame :: outer) = opened outer ++ frame.tokens := by
  simp [opened]

theorem ofReversed_item_tokens (ending : ListEnd) (last : Draft) (earlier : List Draft) :
    (Items.ofReversed ending (last :: earlier)).tokens =
      commaEnded (earlier.map Draft.tokens) ++ last.tokens ++ [.closeList] := by
  have general (others : Items) (last : Draft) (earlier : List Draft) :
      (earlier.foldl (fun others first => Items.item first others) (.item last others)).tokens =
        commaEnded (earlier.map Draft.tokens) ++ last.tokens ++ others.following := by
    induction earlier generalizing last others with
    | nil => rfl
    | cons next earlier ih =>
      rw [List.foldl_cons, ih, Items.following, List.map_cons, commaEnded_cons]
      simp
  exact general (.stop ending) last earlier

theorem ofReversed_member_tokens (ending : ObjectEnd) (last : Lexeme × Draft)
    (earlier : List (Lexeme × Draft)) :
    (Members.ofReversed ending (last :: earlier)).tokens =
      commaEnded (earlier.map memberTokens) ++ memberTokens last ++ [.closeObject] := by
  have general (others : Members) (last : Lexeme × Draft) (earlier : List (Lexeme × Draft)) :
      (earlier.foldl (fun others first => Members.member first.1 first.2 others)
        (.member last.1 last.2 others)).tokens =
        commaEnded (earlier.map memberTokens) ++ memberTokens last ++ others.following := by
    induction earlier generalizing last others with
    | nil => rfl
    | cons next earlier ih =>
      rw [List.foldl_cons, ih, Members.following, List.map_cons, commaEnded_cons]
      simp [memberTokens]
  exact general (.stop ending) last earlier

theorem ofReversed_items_data (ending : ListEnd) (items : List Draft) (bad : ending ≠ .closed) :
    (Items.ofReversed ending items).data? = none := by
  have general (others : Items) (none : others.data? = none) :
      (items.foldl (fun others first => Items.item first others) others).data? = .none := by
    induction items generalizing others with
    | nil => exact none
    | cons first items ih =>
      apply ih
      rw [Items.data?, none]
      cases first.datum? <;> rfl
  apply general
  cases ending <;> first | rfl | exact absurd rfl bad

theorem ofReversed_members_data (ending : ObjectEnd) (members : List (Lexeme × Draft))
    (bad : ending ≠ .closed) : (Members.ofReversed ending members).data? = none := by
  have general (others : Members) (none : others.data? = none) :
      (members.foldl (fun others first => Members.member first.1 first.2 others) others).data? =
        .none := by
    induction members generalizing others with
    | nil => exact none
    | cons first members ih =>
      apply ih
      rw [Members.data?, none]
      cases first.1.units? <;> cases first.2.datum? <;> rfl
  apply general
  cases ending <;> first | rfl | exact absurd rfl bad

theorem list_datum_none (ending : ListEnd) (items : List Draft) (bad : ending ≠ .closed) :
    (Draft.list (.ofReversed ending items)).datum? = none := by
  rw [Draft.datum?, ofReversed_items_data ending items bad]
  rfl

theorem object_datum_none (ending : ObjectEnd) (members : List (Lexeme × Draft))
    (bad : ending ≠ .closed) : (Draft.object (.ofReversed ending members)).datum? = none := by
  rw [Draft.datum?, ofReversed_members_data ending members bad]
  rfl

theorem within_datum_none (draft : Draft) (outer : List Frame) (broken : draft.datum? = none) :
    (draft.within outer).datum? = none := by
  induction outer generalizing draft with
  | nil => exact broken
  | cons frame outer ih =>
    cases frame with
    | item items =>
      apply ih
      exact list_datum_none .cutOff (draft :: items) (by simp)
    | member members key =>
      apply ih
      exact object_datum_none .cutOff ((key, draft) :: members) (by simp)

namespace State

/-- What a state knows of the tokens that have been read: all of them, until the run is settled. -/
def Read (seen : List Token) : State → Prop
  | value outer => seen = opened outer
  | listStart outer => seen = opened outer ++ [.openList]
  | listNext items outer => seen = opened outer ++ .openList :: commaEnded (items.map Draft.tokens)
  | afterItem [] _ => False
  | afterItem (last :: earlier) outer =>
    seen = opened outer ++ .openList :: (commaEnded (earlier.map Draft.tokens) ++ last.tokens)
  | objectStart outer => seen = opened outer ++ [.openObject]
  | objectNext members outer =>
    seen = opened outer ++ .openObject :: commaEnded (members.map memberTokens)
  | afterKey members key outer =>
    seen = opened outer ++ .openObject :: (commaEnded (members.map memberTokens) ++ [.text key])
  | afterMember [] _ => False
  | afterMember (last :: earlier) outer =>
    seen = opened outer ++
      .openObject :: (commaEnded (earlier.map memberTokens) ++ memberTokens last)
  | afterRoot root => seen = root.tokens
  | settled document => document.trailing = true ∨ document.root.datum? = none

theorem read_put (draft : Draft) (outer : List Frame) (seen : List Token)
    (same : seen = opened outer ++ draft.tokens) : (put draft outer).Read seen := by
  cases outer with
  | nil => exact same
  | cons frame outer =>
    rw [opened_cons] at same
    cases frame with
    | item items => simpa [put, Read, Frame.tokens] using same
    | member members key => simpa [put, Read, Frame.tokens, memberTokens] using same

theorem read_breakOff (draft : Draft) (outer : List Frame) (seen : List Token)
    (broken : draft.datum? = none) : (breakOff draft outer).Read seen :=
  Or.inr (within_datum_none draft outer broken)

theorem read_readValue (outer : List Frame) (token : Token) :
    (readValue outer token).Read (opened outer ++ [token]) := by
  cases token with
  | word word => exact read_put _ outer _ rfl
  | number number => exact read_put _ outer _ rfl
  | text lexeme => exact read_put _ outer _ rfl
  | openList => exact rfl
  | openObject => exact rfl
  | _ => exact read_breakOff _ outer _ rfl

/-- A step adds its token to what has been read, unless it settles the run: then either the text
goes on after its value, or the text has broken off and has none. -/
theorem read_step (state : State) (seen : List Token) (token : Token) (read : state.Read seen) :
    (step state token).Read (seen ++ [token]) := by
  cases state with
  | value outer =>
    rw [show seen = opened outer from read]
    exact read_readValue outer token
  | listStart outer =>
    rw [show seen = opened outer ++ [.openList] from read]
    by_cases closing : token = .closeList
    · rw [closing]
      exact read_put _ outer _ (List.append_assoc _ _ _)
    · rw [step_listStart outer token closing]
      have inside := read_readValue (.item [] :: outer) token
      rwa [opened_cons] at inside
  | listNext items outer =>
    by_cases closing : token = .closeList
    · rw [closing]
      exact read_breakOff _ outer _ (list_datum_none .trailingComma items (by simp))
    · rw [step_listNext items outer token closing]
      have inside := read_readValue (.item items :: outer) token
      rw [opened_cons] at inside
      rwa [show seen = _ from read]
  | afterItem items outer =>
    cases items with
    | nil => exact read.elim
    | cons last earlier =>
      cases token with
      | comma =>
        show seen ++ [.comma] = _
        rw [show seen = _ from read, List.map_cons, commaEnded_cons]
        simp
      | closeList =>
        apply read_put
        rw [show seen = _ from read, Draft.tokens, ofReversed_item_tokens]
        simp
      | _ => exact read_breakOff _ outer _ (list_datum_none .stray (last :: earlier) (by simp))
  | objectStart outer =>
    rw [show seen = opened outer ++ [.openObject] from read]
    cases token with
    | closeObject => exact read_put _ outer _ (List.append_assoc _ _ _)
    | text key => exact List.append_assoc _ _ _
    | _ => exact read_breakOff _ outer _ rfl
  | objectNext members outer =>
    cases token with
    | text key =>
      show seen ++ [.text key] = _
      rw [show seen = _ from read]
      simp
    | closeObject =>
      exact read_breakOff _ outer _ (object_datum_none .trailingComma members (by simp))
    | _ => exact read_breakOff _ outer _ (object_datum_none .badKey members (by simp))
  | afterKey members key outer =>
    cases token with
    | colon =>
      show seen ++ [.colon] = _
      rw [show seen = _ from read, opened_cons, Frame.tokens]
      simp
    | _ => exact read_breakOff _ outer _ (object_datum_none (.loneKey key .false) members (by simp))
  | afterMember members outer =>
    cases members with
    | nil => exact read.elim
    | cons last earlier =>
      cases token with
      | comma =>
        show seen ++ [.comma] = _
        rw [show seen = _ from read, List.map_cons, commaEnded_cons]
        simp
      | closeObject =>
        apply read_put
        rw [show seen = _ from read, Draft.tokens, ofReversed_member_tokens]
        simp
      | _ => exact read_breakOff _ outer _ (object_datum_none .stray (last :: earlier) (by simp))
  | afterRoot root => exact Or.inl rfl
  | settled document => exact read

theorem read_run (state : State) (seen tokens : List Token) (read : state.Read seen) :
    (tokens.foldl step state).Read (seen ++ tokens) := by
  induction tokens generalizing state seen with
  | nil => rwa [List.append_nil]
  | cons token tokens ih =>
    have all := ih (step state token) (seen ++ [token]) (read_step state seen token read)
    rwa [List.append_assoc] at all

theorem read_document (state : State) (seen : List Token) (datum : Datum) (read : state.Read seen)
    (alone : state.document.trailing = false) (known : state.document.root.datum? = some datum) :
    seen = state.document.root.tokens := by
  have broken (none : state.document.root.datum? = none) : seen = state.document.root.tokens := by
    rw [none] at known
    cases known
  cases state with
  | value outer => exact broken (within_datum_none _ outer rfl)
  | listStart outer => exact broken (within_datum_none _ outer rfl)
  | listNext items outer =>
    exact broken (within_datum_none _ outer (list_datum_none .cutOffAfterComma items (by simp)))
  | afterItem items outer =>
    exact broken (within_datum_none _ outer (list_datum_none .cutOff items (by simp)))
  | objectStart outer => exact broken (within_datum_none _ outer rfl)
  | objectNext members outer =>
    exact broken (within_datum_none _ outer (object_datum_none .cutOffAfterComma members (by simp)))
  | afterKey members key outer =>
    exact broken
      (within_datum_none _ outer (object_datum_none (.loneKey key .true) members (by simp)))
  | afterMember members outer =>
    exact broken (within_datum_none _ outer (object_datum_none .cutOff members (by simp)))
  | afterRoot root => exact read
  | settled document =>
    cases read with
    | inl trailing =>
      rw [State.document, trailing] at alone
      cases alone
    | inr none => exact broken none

end State

/-- The document of a value has its tokens and no others. -/
theorem ofTokens_eq_iff (tokens : List Token) (root : Draft) (datum : Datum)
    (known : root.datum? = some datum) :
    Document.ofTokens tokens = ⟨root, false⟩ ↔ tokens = root.tokens := by
  constructor
  · intro same
    have read := State.read_run (.value []) [] tokens rfl
    have document : (tokens.foldl State.step (.value [])).document = ⟨root, false⟩ := same
    have all := State.read_document _ _ datum read (by rw [document]) (by rw [document, known])
    rwa [document] at all
  · intro same
    rw [same]
    exact ofTokens_complete root datum known

end RouteTemplate.Json
