import Mathlib.Data.List.Forall2
import RouteTemplate.Json.Decode
import RouteTemplate.Proofs.FirstFailure
import RouteTemplate.Proofs.Json.Reading

/-!
What the readers of drafts accept, in terms of values. A reader that accepts a draft has seen all of
it, so an accepted draft has a value, and a reader that depends on that value alone accepts a text
just where the grammar writes such a value (`read_eq_ok_iff`).
-/

namespace RouteTemplate.Json

variable {ε α β : Type}

theorem map_eq_ok (action : Except ε α) (change : α → β) (result : β) :
    change <$> action = .ok result ↔ ∃ value, action = .ok value ∧ change value = result := by
  cases action with
  | error error => simp [Functor.map, Except.map]
  | ok value => simp [Functor.map, Except.map]

theorem lift_eq_ok (action : Except Fault α) (value : α) :
    (liftM action : Except ReadError α) = .ok value ↔ action = .ok value := by
  cases action with
  | error fault => simp [liftM, monadLift, MonadLift.monadLift]
  | ok other => simp [liftM, monadLift, MonadLift.monadLift]

theorem check_eq_ok (ending : ListEnd) (done : Unit) :
    ending.check = .ok done ↔ ending = .closed := by
  cases ending <;> simp [ListEnd.check]

theorem finish_eq_ok (items : Items) (done : Unit) :
    items.finish = .ok done ↔ items = .stop .closed := by
  cases items with
  | stop ending => cases ending <;> simp [Items.finish, ListEnd.checkFixed]
  | item first others => simp [Items.finish]

theorem reject_ne_ok (wanted : Shape) (draft : Draft) (value : α) :
    draft.reject wanted ≠ .ok value := by
  rw [Draft.reject]
  split <;> simp

namespace Draft

def Holds (draft : Draft) : Datum → Prop
  | .null => draft = .word (.ok .null)
  | .boolean value => draft = .word (.ok (if value then .true else .false))
  | .number numeral => draft = .number (.ok numeral)
  | .text units => ∃ lexeme, draft = .text lexeme ∧ lexeme.units? = some units
  | .list data => ∃ items, draft = .list items ∧ items.data? = some data
  | .object data => ∃ members, draft = .object members ∧ members.data? = some data

theorem datum_eq_some (draft : Draft) (datum : Datum) :
    draft.datum? = some datum ↔ draft.Holds datum := by
  constructor
  · intro known
    cases draft with
    | cutOff => cases known
    | stray => cases known
    | word found =>
      cases found with
      | error fault => cases known
      | ok word => cases word <;> cases known <;> rfl
    | number found =>
      cases found with
      | error fault => cases known
      | ok numeral =>
        cases known
        rfl
    | text lexeme =>
      obtain ⟨units, knownUnits, rfl⟩ := Option.map_eq_some_iff.mp known
      exact ⟨lexeme, rfl, knownUnits⟩
    | list items =>
      obtain ⟨data, knownData, rfl⟩ := Option.map_eq_some_iff.mp known
      exact ⟨items, rfl, knownData⟩
    | object members =>
      obtain ⟨data, knownData, rfl⟩ := Option.map_eq_some_iff.mp known
      exact ⟨members, rfl, knownData⟩
  · intro holds
    cases datum with
    | null => rw [show draft = _ from holds, datum?]
    | boolean value =>
      rw [show draft = _ from holds]
      cases value <;> rfl
    | number numeral => rw [show draft = _ from holds, datum?]
    | text units =>
      obtain ⟨lexeme, rfl, known⟩ := holds
      rw [datum?, known, Option.map_some]
    | list data =>
      obtain ⟨items, rfl, known⟩ := holds
      rw [datum?, known, Option.map_some]
    | object data =>
      obtain ⟨members, rfl, known⟩ := holds
      rw [datum?, known, Option.map_some]

theorem string_eq_ok (draft : Draft) (text : String) :
    draft.string = .ok text ↔ draft.datum? = some (.string text) := by
  rw [datum_eq_some, Datum.string, Holds]
  cases draft with
  | text lexeme =>
    rw [string]
    refine (lift_eq_ok _ _).trans ?_
    simp [decode_eq_ok_iff]
  | _ => simp [string, reject_ne_ok]

theorem unit_eq_ok (draft : Draft) (done : Unit) :
    draft.unit = .ok done ↔ draft.datum? = some .null := by
  rw [datum_eq_some, Holds]
  fun_cases unit draft with
  | case1 => simp
  | case2 _ other => exact iff_of_false (reject_ne_ok .unit draft done) other

end Draft

theorem items_data_nil (items : Items) : items.data? = some [] ↔ items = .stop .closed := by
  cases items with
  | stop ending => cases ending <;> simp [Items.data?]
  | item first others =>
    rw [item_data_eq_some]
    simp

theorem items_data_cons (items : Items) (datum : Datum) (data : List Datum)
    (known : items.data? = some (datum :: data)) :
    ∃ first others, first.datum? = some datum ∧ others.data? = some data ∧
      items = .item first others := by
  cases items with
  | stop ending => cases (items_stop_data ending _ known).2
  | item first others =>
    obtain ⟨_, _, knownFirst, knownOthers, same⟩ := (item_data_eq_some _ _ _).mp known
    cases same
    exact ⟨first, others, knownFirst, knownOthers, rfl⟩

theorem members_data_nil (members : Members) :
    members.data? = some [] ↔ members = .stop .closed := by
  cases members with
  | stop ending => cases ending <;> simp [Members.data?]
  | member key value others =>
    rw [member_data_eq_some]
    simp

theorem members_data_cons (members : Members) (units : List Nat) (datum : Datum)
    (data : List (List Nat × Datum)) (known : members.data? = some ((units, datum) :: data)) :
    ∃ key value others, key.units? = some units ∧ value.datum? = some datum ∧
      others.data? = some data ∧ members = .member key value others := by
  cases members with
  | stop ending => cases (members_stop_data ending _ known).2
  | member key value others =>
    obtain ⟨_, _, _, knownKey, knownValue, knownOthers, same⟩ :=
      (member_data_eq_some _ _ _ _).mp known
    cases same
    exact ⟨key, value, others, knownKey, knownValue, knownOthers, rfl⟩

def Depth.Allows (levels : Nat) : Depth → Prop
  | none => True
  | some depth => levels ≤ depth

theorem Depth.Allows.enter {levels : Nat} {depth : Depth} (allows : depth.Allows (levels + 1)) :
    ∃ inner : Depth, depth.enter = .ok inner ∧ inner.Allows levels := by
  cases depth with
  | none => exact ⟨none, rfl, trivial⟩
  | some depth =>
    cases depth with
    | zero => exact absurd allows (Nat.not_succ_le_zero levels)
    | succ depth => exact ⟨some depth, rfl, Nat.le_of_succ_le_succ allows⟩

/-- Reading that depends on the value of a draft alone: accepted are the drafts of the values that
mean the result. -/
def Reads (decode : Draft → Except ReadError α) (meaning : Datum → α → Prop) : Prop :=
  ∀ draft value, decode draft = .ok value ↔
    ∃ datum, draft.datum? = some datum ∧ meaning datum value

theorem Reads.mapM {decode : Draft → Except ReadError α} {meaning : Datum → α → Prop}
    (reads : Reads decode meaning) (items : Items) (values : List α) :
    items.mapM decode = .ok values ↔
      ∃ data, items.data? = some data ∧ List.Forall₂ meaning data values := by
  cases items with
  | stop ending =>
    rw [Items.mapM, bind_eq_ok]
    constructor
    · intro accepted
      obtain ⟨done, checked, same⟩ := accepted
      rw [lift_eq_ok, check_eq_ok] at checked
      cases checked
      cases same
      exact ⟨[], rfl, .nil⟩
    · intro found
      obtain ⟨data, known, each⟩ := found
      obtain ⟨rfl, rfl⟩ := items_stop_data ending data known
      cases each
      exact ⟨(), rfl, rfl⟩
  | item first others =>
    simp only [Items.mapM, bind_eq_ok, Reads.mapM reads others]
    constructor
    · intro accepted
      obtain ⟨value, readFirst, rest, ⟨data, knownOthers, each⟩, same⟩ := accepted
      obtain ⟨datum, known, meant⟩ := (reads first value).mp readFirst
      cases same
      exact ⟨datum :: data, (item_data_eq_some _ _ _).mpr ⟨_, _, known, knownOthers, rfl⟩,
        .cons meant each⟩
    · intro found
      obtain ⟨_, known, each⟩ := found
      obtain ⟨datum, data, knownFirst, knownOthers, rfl⟩ := (item_data_eq_some _ _ _).mp known
      cases each with
      | cons meant each =>
        exact ⟨_, (reads first _).mpr ⟨datum, knownFirst, meant⟩, _, ⟨data, knownOthers, each⟩, rfl⟩

def Datum.optional : Option String → Datum
  | none => .null
  | some value => .string value

def Datum.strings (values : List String) : Datum := .list (values.map .string)

theorem Datum.strings_injective : Function.Injective strings := by
  have one : Function.Injective string := by
    intro value other same
    exact units_injective (text.inj same)
  intro values others same
  exact List.map_injective_iff.mpr one (list.inj same)

namespace Draft

theorem optionalString_reads : Reads optionalString fun datum value => datum = .optional value := by
  intro draft value
  simp only [exists_eq_right, datum_eq_some]
  fun_cases optionalString draft with
  | case1 => cases value <;> simp [Datum.optional, Datum.string, Holds]
  | case2 _ other =>
    rw [map_eq_ok]
    cases value with
    | none => exact iff_of_false (by simp) other
    | some found =>
      rw [Datum.optional, ← datum_eq_some, ← string_eq_ok]
      simp

theorem boolean_reads : Reads boolean fun datum value => datum = .boolean value := by
  intro draft value
  simp only [exists_eq_right, datum_eq_some]
  fun_cases boolean draft with
  | case1 => cases value <;> simp [Holds]
  | case2 => cases value <;> simp [Holds]
  | case3 _ noFalse noTrue =>
    apply iff_of_false (reject_ne_ok .boolean draft value)
    intro holds
    cases value with
    | false => exact noFalse holds
    | true => exact noTrue holds

theorem list_datum (items : Items) (data : List Datum) :
    (list items).datum? = some (.list data) ↔ items.data? = some data := by
  rw [datum?]
  simp

theorem object_datum (members : Members) (data : List (List Nat × Datum)) :
    (object members).datum? = some (.object data) ↔ members.data? = some data := by
  rw [datum?]
  simp

theorem string_reads : Reads string fun datum value => datum = .string value := by
  intro draft value
  simp [string_eq_ok]

theorem strings_reads (depth : Depth) (wanted : Shape) (allows : depth.Allows 1) :
    Reads (strings depth wanted) fun datum values => datum = .strings values := by
  intro draft values
  simp only [exists_eq_right]
  fun_cases strings depth wanted draft with
  | case1 items =>
    obtain ⟨inner, entered, _⟩ := allows.enter
    rw [entered, Datum.strings, list_datum]
    refine (string_reads.mapM items values).trans ?_
    have same (data : List Datum) :
        List.Forall₂ (fun datum value => datum = .string value) data values ↔
          data = values.map .string := by
      rw [← List.forall₂_eq_eq_eq, List.forall₂_map_right_iff]
    simp [same]
  | case2 _ other =>
    refine iff_of_false (reject_ne_ok wanted draft values) ?_
    intro known
    obtain ⟨items, same, _⟩ := (datum_eq_some _ _).mp known
    exact other items same

end Draft

theorem Lexeme.skip_eq_ok (lexeme : Lexeme) (done : Unit) :
    lexeme.skip = .ok done ↔ lexeme.units?.isSome := by
  cases lexeme with
  | mk pieces ending => cases ending <;> simp [skip, endFault, units?]

theorem ListEnd.skip_eq_ok (ending : ListEnd) (done : Unit) :
    ending.skip = .ok done ↔ ending = .closed := by
  cases ending <;> simp [skip]

theorem ObjectEnd.skip_eq_ok (ending : ObjectEnd) (done : Unit) :
    ending.skip = .ok done ↔ ending = .closed := by
  cases ending with
  | loneKey key cutOff => simp [skip, bind_eq_ok]
  | _ => simp [skip]

-- A skipped value is checked all through, only without its surrogates.
mutual

theorem Draft.skip_eq_ok (draft : Draft) (done : Unit) :
    draft.skip = .ok done ↔ draft.datum?.isSome := by
  cases draft with
  | cutOff => simp [Draft.skip, Draft.datum?]
  | stray => simp [Draft.skip, Draft.datum?]
  | word found =>
    cases found with
    | error fault => simp [Draft.skip, Draft.datum?]
    | ok word => cases word <;> simp [Draft.skip, Draft.datum?]
  | number found => cases found <;> simp [Draft.skip, Draft.datum?]
  | text lexeme =>
    rw [Draft.skip, Draft.datum?, Option.isSome_map]
    exact Lexeme.skip_eq_ok lexeme done
  | list items =>
    rw [Draft.skip, Draft.datum?, Option.isSome_map]
    exact Items.skip_eq_ok items done
  | object members =>
    rw [Draft.skip, Draft.datum?, Option.isSome_map]
    exact Members.skip_eq_ok members done

theorem Items.skip_eq_ok (items : Items) (done : Unit) :
    items.skip = .ok done ↔ items.data?.isSome := by
  cases items with
  | stop ending =>
    rw [Items.skip, ListEnd.skip_eq_ok]
    cases ending <;> simp [Items.data?]
  | item first others =>
    simp only [Items.skip, bind_eq_ok, Draft.skip_eq_ok first, Items.skip_eq_ok others, Items.data?]
    cases first.datum? <;> cases others.data? <;> simp

theorem Members.skip_eq_ok (members : Members) (done : Unit) :
    members.skip = .ok done ↔ members.data?.isSome := by
  cases members with
  | stop ending =>
    rw [Members.skip, ObjectEnd.skip_eq_ok]
    cases ending <;> simp [Members.data?]
  | member key value others =>
    simp only [Members.skip, bind_eq_ok, Lexeme.skip_eq_ok key, Draft.skip_eq_ok value,
      Members.skip_eq_ok others, Members.data?]
    cases key.units? <;> cases value.datum? <;> cases others.data? <;> simp

end

section Members

variable {κ σ : Type} (interpret : σ → String → Except ReadError κ)
  (take : σ → κ → Draft → Except ReadError σ)

theorem object_check_eq_ok (ending : ObjectEnd) (done : Unit) :
    ending.check = .ok done ↔ ending = .closed := by
  cases ending with
  | loneKey key cutOff => cases cutOff <;> simp [ObjectEnd.check]
  | _ => simp [ObjectEnd.check]

theorem foldM_stop_eq_ok (state result : σ) (ending : ObjectEnd) :
    (Members.stop ending).foldM interpret take state = .ok result ↔
      ending = .closed ∧ result = state := by
  cases ending with
  | loneKey key cutOff =>
    simp only [Members.foldM, bind_eq_ok, lift_eq_ok, object_check_eq_ok]
    simp
  | _ =>
    simp only [Members.foldM, bind_eq_ok, lift_eq_ok, object_check_eq_ok]
    simp [pure, Except.pure, eq_comm]

theorem foldM_member (state : σ) (key : Lexeme) (value : Draft) (others : Members) (name : String)
    (known : key.units? = some (units name)) :
    (Members.member key value others).foldM interpret take state = (do
      let meaning ← interpret state name
      let next ← take state meaning value
      others.foldM interpret take next) := by
  have decoded := (decode_eq_ok_iff key name).mpr known
  rw [Members.foldM, decoded]
  rfl

theorem foldM_member_eq_ok (state result : σ) (key : Lexeme) (value : Draft) (others : Members) :
    (Members.member key value others).foldM interpret take state = .ok result ↔
      ∃ name meaning next, key.units? = some (units name) ∧ interpret state name = .ok meaning ∧
        take state meaning value = .ok next ∧ others.foldM interpret take next = .ok result := by
  simp only [Members.foldM, bind_eq_ok, lift_eq_ok, decode_eq_ok_iff]
  constructor
  · intro accepted
    obtain ⟨name, known, meaning, interpreted, next, taken, rest⟩ := accepted
    exact ⟨name, meaning, next, known, interpreted, taken, rest⟩
  · intro found
    obtain ⟨name, meaning, next, known, interpreted, taken, rest⟩ := found
    exact ⟨name, known, meaning, interpreted, next, taken, rest⟩

end Members

section Read

variable (decode : Draft → Except ReadError α) (meaning : Datum → α → Prop)

theorem read_document (text : String) (value : α) :
    read decode text = .ok value ↔
      ∃ root, Document.ofText text = ⟨root, false⟩ ∧ decode root = .ok value := by
  rw [read, bind_eq_ok]
  cases Document.ofText text with
  | mk root trailing =>
    cases trailing <;> simp [pure, Except.pure]

theorem read_root (text : String) (root : Draft) (document : Document.ofText text = ⟨root, false⟩) :
    read decode text = decode root := by
  rw [read, document]
  exact bind_pure (decode root)

theorem read_eq_ok_iff
    (decoded : ∀ draft value, decode draft = .ok value ↔
      ∃ datum, draft.datum? = some datum ∧ meaning datum value) (text : String) (value : α) :
    read decode text = .ok value ↔ ∃ datum, Padded datum text.toList ∧ meaning datum value := by
  rw [read_document]
  constructor
  · intro found
    obtain ⟨root, document, accepted⟩ := found
    obtain ⟨datum, known, meant⟩ := (decoded root value).mp accepted
    exact ⟨datum, (Document.ofText_iff text datum).mp ⟨root, document, known⟩, meant⟩
  · intro found
    obtain ⟨datum, padded, meant⟩ := found
    obtain ⟨root, document, known⟩ := (Document.ofText_iff text datum).mpr padded
    exact ⟨root, document, (decoded root value).mpr ⟨datum, known, meant⟩⟩

theorem read_trailing (text rest : String) (datum : Datum) (value : α)
    (padded : Padded datum text.toList) (ended : EndsBefore rest.toList datum)
    (more : ¬ Spaces rest.toList)
    (accepted : ∀ draft : Draft, draft.datum? = some datum → decode draft = .ok value) :
    read decode (text ++ rest) = .error (.malformed .trailingText) := by
  obtain ⟨root, document, known⟩ := Document.ofText_trailing text rest datum padded ended more
  rw [read, document, accepted root known]
  rfl

end Read

end RouteTemplate.Json
