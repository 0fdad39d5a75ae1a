import Mathlib.Data.List.Nodup
import Mathlib.Data.List.Pairwise
import RouteTemplate.Proofs.Json.Decoding
import RouteTemplate.Proofs.Json.Writing

/-!
Records against the grammar. A record is an object whose members may come in any order, with unknown
ones among them, or the list of its fields. Either way it gives each field one value at most
(`Datum.part?`), and what is kept of the record depends on these values alone (`record_eq_ok`).
-/

namespace RouteTemplate.Json

section Few

variable {α : Type*} (p : α → Prop) (first second third : α)

theorem forall_mem_pair : (∀ item ∈ [first, second], p item) ↔ p first ∧ p second := by
  rw [List.forall_mem_cons, List.forall_mem_singleton]

theorem forall_mem_triple :
    (∀ item ∈ [first, second, third], p item) ↔ p first ∧ p second ∧ p third := by
  rw [List.forall_mem_cons, forall_mem_pair]

end Few

def valuesOf (key : String) (members : List (List Nat × Datum)) : List Datum :=
  (members.filter fun member => member.1 = units key).map Prod.snd

theorem valuesOf_same (key : String) (datum : Datum) (members : List (List Nat × Datum)) :
    valuesOf key ((units key, datum) :: members) = datum :: valuesOf key members := by
  simp [valuesOf]

theorem valuesOf_other (key name : String) (datum : Datum) (members : List (List Nat × Datum))
    (different : key ≠ name) :
    valuesOf key ((units name, datum) :: members) = valuesOf key members := by
  have apart : units name ≠ units key := fun same => different (units_injective same).symm
  simp [valuesOf, apart]

namespace Datum

/-- The fields that a record gives, each under its key. A list gives the first ones. -/
def members (keys : List String) : Datum → List (List Nat × Datum)
  | .list items => (keys.map units).zip items
  | .object members => members
  | _ => []

def part? (keys : List String) (key : String) (datum : Datum) : Option Datum :=
  (valuesOf key (datum.members keys)).head?

/-- Whether the value is a record of these fields. The keys of an object have to be strings, known
or not, and no field may come twice. -/
def IsRecord (keys : List String) : Datum → Prop
  | .list items => items.length ≤ keys.length
  | .object members =>
    (∀ member ∈ members, ∃ key, member.1 = units key) ∧
      ∀ key ∈ keys, (valuesOf key members).length ≤ 1
  | _ => False

end Datum

namespace Value

theorem valuesOf_memberData (key : String) (members : List (String × Value)) :
    valuesOf key (memberData members) =
      (members.filter fun member => member.1 = key).map fun member => member.2.datum := by
  rw [memberData_eq_map, valuesOf, List.filter_map, List.map_map]
  simp only [Function.comp_def, units_injective.eq_iff]

theorem object_part? (keys : List String) (key : String) (members : List (String × Value)) :
    (object members).datum.part? keys key =
      (members.find? fun member => member.1 = key).map fun member => member.2.datum := by
  rw [datum, Datum.part?, Datum.members, valuesOf_memberData, List.head?_map, List.head?_filter]

theorem object_isRecord (keys : List String) (members : List (String × Value))
    (distinct : (members.map Prod.fst).Nodup) : (object members).datum.IsRecord keys := by
  constructor
  · intro member listed
    rw [memberData_eq_map] at listed
    obtain ⟨given, _, rfl⟩ := List.mem_map.mp listed
    exact ⟨given.1, rfl⟩
  · intro key _
    rw [valuesOf_memberData, List.length_map, ← List.countP_eq_length_filter]
    have single := List.nodup_iff_count_le_one.mp distinct key
    rw [List.count, List.countP_map] at single
    exact single

end Value

/-- A slot in a record: the key of its field, what is kept there, and how that is read. -/
structure Slot (σ : Type) where
  key : String
  Kept : Type
  kept : σ → Option Kept
  keep : σ → Kept → σ
  read : Draft → Except ReadError Kept
  meaning : Datum → Kept → Prop

variable {σ : Type}

namespace Slot

def field (slot : Slot σ) : RecordField σ :=
  ⟨slot.key, fun record => (slot.kept record).isSome, fun record value => do
    return slot.keep record (← slot.read value)⟩

def Agrees (slot : Slot σ) (record : σ) : Option Datum → Prop
  | none => slot.kept record = none
  | some datum => ∃ value, slot.kept record = some value ∧ slot.meaning datum value

/-- What the values of its field make of the slot. It must be empty before a value comes. -/
def Fills (slot : Slot σ) (before after : σ) : List Datum → Prop
  | [] => slot.kept after = slot.kept before
  | [datum] => slot.kept before = none ∧ slot.Agrees after (some datum)
  | _ :: _ :: _ => False

structure Apart (first second : Slot σ) : Prop where
  keys : first.key ≠ second.key
  left : ∀ record value, first.kept (second.keep record value) = first.kept record
  right : ∀ record value, second.kept (first.keep record value) = second.kept record

structure Whole (slots : List (Slot σ)) : Prop where
  reads : ∀ slot ∈ slots, Reads slot.read slot.meaning
  kept_keep : ∀ slot ∈ slots, ∀ record value, slot.kept (slot.keep record value) = some value
  apart : slots.Pairwise Apart
  ext : ∀ first second, (∀ slot ∈ slots, slot.kept first = slot.kept second) → first = second

theorem fills_congr (slot : Slot σ) (before other after : σ) (values : List Datum)
    (same : slot.kept before = slot.kept other) :
    slot.Fills before after values ↔ slot.Fills other after values := by
  match values with
  | [] => rw [Fills, Fills, same]
  | [datum] => rw [Fills, Fills, same]
  | _ :: _ :: _ => rfl

theorem fills_empty (slot : Slot σ) (before after : σ) (values : List Datum)
    (empty : slot.kept before = none) :
    slot.Fills before after values ↔ values.length ≤ 1 ∧ slot.Agrees after values.head? := by
  match values with
  | [] => simp [Fills, Agrees, empty]
  | [datum] => simp [Fills, empty]
  | _ :: _ :: _ => simp [Fills]

theorem fills_kept (slot : Slot σ) (before after : σ) (values : List Datum) (value : slot.Kept)
    (filled : slot.kept before = some value) :
    slot.Fills before after values ↔ values = [] ∧ slot.kept after = some value := by
  match values with
  | [] => simp [Fills, filled]
  | [datum] => simp [Fills, filled]
  | _ :: _ :: _ => simp [Fills]

theorem meaning_of_agrees (slot : Slot σ) (fallback : Datum) (initial : slot.Kept)
    (means : ∀ value, slot.meaning fallback value ↔ value = initial) (record : σ)
    (part : Option Datum) (agrees : slot.Agrees record part) :
    slot.meaning (part.getD fallback) ((slot.kept record).getD initial) := by
  cases part with
  | none =>
    rw [show slot.kept record = none from agrees]
    exact (means initial).mpr rfl
  | some datum =>
    obtain ⟨value, kept, meant⟩ := agrees
    rw [kept]
    exact meant

theorem agrees_of_meaning (slot : Slot σ) (fallback : Datum) (initial : slot.Kept)
    (means : ∀ value, slot.meaning fallback value ↔ value = initial) (part : Option Datum)
    (value : slot.Kept) (meant : slot.meaning (part.getD fallback) value) :
    ∃ kept : Option slot.Kept, kept.getD initial = value ∧
      ∀ record, slot.kept record = kept → slot.Agrees record part := by
  cases part with
  | none => exact ⟨none, ((means value).mp meant).symm, fun record same => same⟩
  | some datum => exact ⟨some value, rfl, fun record same => ⟨value, same, meant⟩⟩

instance : Std.Symm (@Apart σ) :=
  ⟨fun _ _ apart => ⟨apart.keys.symm, apart.right, apart.left⟩⟩

section Whole

variable {slots : List (Slot σ)} (whole : Whole slots)

include whole

theorem apart_of_ne (first second : Slot σ) (member : first ∈ slots) (other : second ∈ slots)
    (different : first ≠ second) : first.Apart second :=
  whole.apart.forall member other different

theorem find_field (slot : Slot σ) (member : slot ∈ slots) :
    (slots.map field).find? (fun other => other.key == slot.key) = some slot.field := by
  rw [List.find?_map, Option.map_eq_some_iff]
  refine ⟨slot, ?_, rfl⟩
  have there : (slots.find? ((fun other => other.key == slot.key) ∘ field)).isSome :=
    List.find?_isSome.mpr ⟨slot, member, beq_self_eq_true slot.key⟩
  obtain ⟨found, search⟩ := Option.isSome_iff_exists.mp there
  have same : found.key = slot.key := by simpa [field] using List.find?_some search
  by_cases equal : found = slot
  · rw [← equal] at search ⊢
    exact search
  · have apart := apart_of_ne whole found slot (List.mem_of_find?_eq_some search) member equal
    exact absurd same apart.keys

theorem fills_cons (slot : Slot σ) (member : slot ∈ slots) (before after : σ) (datum : Datum)
    (others : List (List Nat × Datum)) :
    (∀ other ∈ slots,
        other.Fills before after (valuesOf other.key ((units slot.key, datum) :: others))) ↔
      slot.kept before = none ∧ ∃ value, slot.meaning datum value ∧
        ∀ other ∈ slots,
          other.Fills (slot.keep before value) after (valuesOf other.key others) := by
  have untouched (value : slot.Kept) (other : Slot σ) (listed : other ∈ slots)
      (different : other ≠ slot) :
      other.Fills before after (valuesOf other.key ((units slot.key, datum) :: others)) ↔
        other.Fills (slot.keep before value) after (valuesOf other.key others) := by
    have apart := apart_of_ne whole other slot listed member different
    rw [valuesOf_other other.key slot.key datum others apart.keys]
    exact fills_congr other before _ after _ (apart.left before value).symm
  constructor
  · intro filled
    have here := filled slot member
    rw [valuesOf_same] at here
    cases rest : valuesOf slot.key others with
    | cons second more =>
      rw [rest] at here
      exact here.elim
    | nil =>
      rw [rest] at here
      obtain ⟨empty, value, keptAfter, meant⟩ := here
      refine ⟨empty, value, meant, ?_⟩
      intro other listed
      by_cases same : other = slot
      · subst same
        rw [rest, fills_kept other _ after [] value (whole.kept_keep other member before value)]
        exact ⟨rfl, keptAfter⟩
      · exact (untouched value other listed same).mp (filled other listed)
  · intro found
    obtain ⟨empty, value, meant, filled⟩ := found
    intro other listed
    by_cases same : other = slot
    · subst same
      obtain ⟨rest, keptAfter⟩ := (fills_kept other _ after _ value
        (whole.kept_keep other member before value)).mp (filled other listed)
      rw [valuesOf_same, rest]
      exact ⟨empty, value, keptAfter, meant⟩
    · exact (untouched value other listed same).mpr (filled other listed)

theorem take_eq_ok (slot : Slot σ) (member : slot ∈ slots) (before after : σ) (value : Draft) :
    slot.field.take before value = .ok after ↔
      ∃ datum kept, value.datum? = some datum ∧ slot.meaning datum kept ∧
        after = slot.keep before kept := by
  show (do return slot.keep before (← slot.read value)) = .ok after ↔ _
  simp only [bind_eq_ok, whole.reads slot member value]
  constructor
  · intro accepted
    obtain ⟨kept, ⟨datum, known, meant⟩, same⟩ := accepted
    exact ⟨datum, kept, known, meant, (Except.ok.inj same).symm⟩
  · intro found
    obtain ⟨datum, kept, known, meant, rfl⟩ := found
    exact ⟨kept, ⟨datum, known, meant⟩, rfl⟩

theorem interpret_known (slot : Slot σ) (member : slot ∈ slots) (record : σ) :
    RecordField.interpret (slots.map field) record slot.key =
      if (slot.kept record).isSome then .error (.repeatedField slot.key)
      else .ok (some slot.field) := by
  rw [RecordField.interpret, find_field whole slot member]
  rfl

omit whole in
theorem interpret_unknown (name : String) (unknown : ∀ slot ∈ slots, slot.key ≠ name)
    (record : σ) : RecordField.interpret (slots.map field) record name = .ok none := by
  have missing : (slots.map field).find? (fun other => other.key == name) = none := by
    rw [List.find?_map, Option.map_eq_none_iff, List.find?_eq_none]
    intro slot member same
    exact unknown slot member (eq_of_beq same)
  rw [RecordField.interpret, missing]

theorem takeMembers_member (slot : Slot σ) (member : slot ∈ slots) (before : σ)
    (empty : slot.kept before = none) (key : Lexeme) (value : Draft) (others : Members)
    (known : key.units? = some (units slot.key)) :
    RecordField.takeMembers (slots.map field) before (.member key value others) = (do
      let kept ← slot.read value
      RecordField.takeMembers (slots.map field) (slot.keep before kept) others) := by
  rw [RecordField.takeMembers, foldM_member _ _ _ _ _ _ slot.key known,
    interpret_known whole slot member before, empty]
  show ((do return slot.keep before (← slot.read value)) >>= fun next =>
    RecordField.takeMembers (slots.map field) next others) = _
  rw [bind_assoc]
  rfl

theorem takeMember_iff (name : String) (value : Draft) (before : σ) (goal : σ → Prop) :
    (∃ meaning next, RecordField.interpret (slots.map field) before name = .ok meaning ∧
        RecordField.takeAny before meaning value = .ok next ∧ goal next) ↔
      ∃ datum, value.datum? = some datum ∧
        ((∃ slot ∈ slots, slot.key = name ∧ slot.kept before = none ∧
            ∃ kept, slot.meaning datum kept ∧ goal (slot.keep before kept)) ∨
          (∀ slot ∈ slots, slot.key ≠ name) ∧ goal before) := by
  by_cases known : ∃ slot ∈ slots, slot.key = name
  · obtain ⟨slot, member, rfl⟩ := known
    rw [interpret_known whole slot member before]
    constructor
    · intro accepted
      obtain ⟨meaning, next, interpreted, taken, reached⟩ := accepted
      by_cases given : (slot.kept before).isSome = true
      · rw [if_pos given] at interpreted
        cases interpreted
      · rw [if_neg given] at interpreted
        cases interpreted
        obtain ⟨datum, kept, knownValue, meant, rfl⟩ :=
          (take_eq_ok whole slot member before next value).mp taken
        have empty := Option.not_isSome_iff_eq_none.mp given
        exact ⟨datum, knownValue, Or.inl ⟨slot, member, rfl, empty, kept, meant, reached⟩⟩
    · intro found
      obtain ⟨datum, knownValue, found⟩ := found
      rcases found with ⟨other, listed, same, empty, kept, meant, reached⟩ | ⟨unknown, _⟩
      · have equal : other = slot := by
          by_contra different
          exact (apart_of_ne whole other slot listed member different).keys same
        subst equal
        refine ⟨some other.field, other.keep before kept, ?_, ?_, reached⟩
        · rw [empty]
          rfl
        · exact (take_eq_ok whole other member before _ value).mpr
            ⟨datum, kept, knownValue, meant, rfl⟩
      · exact absurd rfl (unknown slot member)
  · have unknown : ∀ slot ∈ slots, slot.key ≠ name := fun slot member same =>
      known ⟨slot, member, same⟩
    rw [interpret_unknown name unknown before]
    constructor
    · intro accepted
      obtain ⟨meaning, next, interpreted, taken, reached⟩ := accepted
      cases interpreted
      obtain ⟨done, skipped, same⟩ := (bind_eq_ok _ _ _).mp taken
      cases same
      obtain ⟨datum, knownValue⟩ :=
        Option.isSome_iff_exists.mp ((Draft.skip_eq_ok value done).mp ((lift_eq_ok _ _).mp skipped))
      exact ⟨datum, knownValue, Or.inr ⟨unknown, reached⟩⟩
    · intro found
      obtain ⟨datum, knownValue, found⟩ := found
      rcases found with ⟨slot, member, same, _⟩ | ⟨_, reached⟩
      · exact absurd same (unknown slot member)
      · have skipped : value.skip = .ok () :=
          (Draft.skip_eq_ok value ()).mpr (by rw [knownValue]; rfl)
        refine ⟨none, before, rfl, ?_, reached⟩
        rw [RecordField.takeAny, skipped]
        rfl

theorem takeMembers_eq_ok (members : Members) (before after : σ) :
    RecordField.takeMembers (slots.map field) before members = .ok after ↔
      ∃ data, members.data? = some data ∧ (∀ member ∈ data, ∃ key, member.1 = units key) ∧
        ∀ slot ∈ slots, slot.Fills before after (valuesOf slot.key data) := by
  cases members with
  | stop ending =>
    rw [RecordField.takeMembers, foldM_stop_eq_ok]
    constructor
    · intro accepted
      obtain ⟨rfl, rfl⟩ := accepted
      exact ⟨[], rfl, fun _ listed => absurd listed List.not_mem_nil, fun slot _ => rfl⟩
    · intro found
      obtain ⟨data, known, _, filled⟩ := found
      obtain ⟨rfl, rfl⟩ := members_stop_data ending data known
      exact ⟨rfl, whole.ext after before filled⟩
  | member key value others =>
    have later (next : σ) := takeMembers_eq_ok others next after
    let goal (next : σ) := RecordField.takeMembers (slots.map field) next others = .ok after
    have skipped (name : String) (unknown : ∀ slot ∈ slots, slot.key ≠ name) (datum : Datum)
        (data : List (List Nat × Datum)) (slot : Slot σ) (listed : slot ∈ slots) :
        valuesOf slot.key ((units name, datum) :: data) = valuesOf slot.key data :=
      valuesOf_other slot.key name datum data (unknown slot listed)
    rw [RecordField.takeMembers, foldM_member_eq_ok]
    constructor
    · intro accepted
      obtain ⟨name, meaning, next, knownKey, interpreted, taken, rest⟩ := accepted
      obtain ⟨datum, knownValue, found⟩ :=
        (takeMember_iff whole name value before goal).mp ⟨meaning, next, interpreted, taken, rest⟩
      rcases found with ⟨slot, listed, rfl, empty, kept, meant, rest⟩ | ⟨unknown, rest⟩
      · obtain ⟨data, knownOthers, named, filled⟩ := (later _).mp rest
        refine ⟨_, (member_data_eq_some _ _ _ _).mpr ⟨_, datum, data, knownKey, knownValue,
          knownOthers, rfl⟩, List.forall_mem_cons.mpr ⟨⟨slot.key, rfl⟩, named⟩, ?_⟩
        exact (fills_cons whole slot listed before after datum data).mpr
          ⟨empty, kept, meant, filled⟩
      · obtain ⟨data, knownOthers, named, filled⟩ := (later _).mp rest
        refine ⟨_, (member_data_eq_some _ _ _ _).mpr ⟨_, datum, data, knownKey, knownValue,
          knownOthers, rfl⟩, List.forall_mem_cons.mpr ⟨⟨name, rfl⟩, named⟩, ?_⟩
        intro slot listed
        rw [skipped name unknown datum data slot listed]
        exact filled slot listed
    · intro found
      obtain ⟨_, known, named, filled⟩ := found
      obtain ⟨_, datum, data, knownKey, knownValue, knownOthers, rfl⟩ :=
        (member_data_eq_some _ _ _ _).mp known
      have ⟨⟨name, written⟩, namedOthers⟩ := List.forall_mem_cons.mp named
      cases written
      have step := takeMember_iff whole name value before goal
      by_cases unknown : ∀ slot ∈ slots, slot.key ≠ name
      · have rest : ∀ slot ∈ slots, slot.Fills before after (valuesOf slot.key data) := by
          intro slot listed
          rw [← skipped name unknown datum data slot listed]
          exact filled slot listed
        obtain ⟨meaning, next, interpreted, taken, rest⟩ := step.mpr ⟨datum, knownValue,
          Or.inr ⟨unknown, (later before).mpr ⟨data, knownOthers, namedOthers, rest⟩⟩⟩
        exact ⟨name, meaning, next, knownKey, interpreted, taken, rest⟩
      · push Not at unknown
        obtain ⟨slot, listed, rfl⟩ := unknown
        obtain ⟨empty, kept, meant, filled⟩ :=
          (fills_cons whole slot listed before after datum data).mp filled
        obtain ⟨meaning, next, interpreted, taken, rest⟩ := step.mpr ⟨datum, knownValue,
          Or.inl ⟨slot, listed, rfl, empty, kept, meant,
            (later _).mpr ⟨data, knownOthers, namedOthers, filled⟩⟩⟩
        exact ⟨slot.key, meaning, next, knownKey, interpreted, taken, rest⟩

theorem takeItems_eq_ok (rest : List (Slot σ)) (included : rest ⊆ slots)
    (distinct : rest.Pairwise Apart) (items : Items) (before after : σ)
    (empty : ∀ slot ∈ rest, slot.kept before = none) :
    RecordField.takeItems before (rest.map field) items = .ok after ↔
      ∃ data, items.data? = some data ∧ data.length ≤ rest.length ∧
        ∀ slot ∈ slots, slot.Fills before after
          (valuesOf slot.key ((rest.map fun slot => units slot.key).zip data)) := by
  induction rest generalizing items before with
  | nil =>
    rw [List.map_nil, RecordField.takeItems, bind_eq_ok]
    simp only [lift_eq_ok, finish_eq_ok]
    constructor
    · intro accepted
      obtain ⟨_, rfl, same⟩ := accepted
      cases same
      exact ⟨[], rfl, Nat.le_refl 0, fun slot _ => rfl⟩
    · intro found
      obtain ⟨data, known, short, filled⟩ := found
      rw [List.eq_nil_of_length_eq_zero (Nat.le_zero.mp short)] at known
      rw [(items_data_nil items).mp known, whole.ext after before filled]
      exact ⟨(), rfl, rfl⟩
  | cons slot rest ih =>
    have member : slot ∈ slots := included List.mem_cons_self
    have later := ih (fun _ listed => included (List.mem_cons_of_mem _ listed)) distinct.of_cons
    cases items with
    | stop ending =>
      rw [List.map_cons, RecordField.takeItems, bind_eq_ok]
      simp only [lift_eq_ok, check_eq_ok]
      constructor
      · intro accepted
        obtain ⟨_, rfl, same⟩ := accepted
        cases same
        exact ⟨[], rfl, Nat.zero_le _, fun other _ => by rw [List.zip_nil_right]; rfl⟩
      · intro found
        obtain ⟨data, known, _, filled⟩ := found
        obtain ⟨rfl, rfl⟩ := items_stop_data ending data known
        rw [List.zip_nil_right] at filled
        rw [whole.ext after before filled]
        exact ⟨(), rfl, rfl⟩
    | item first others =>
      have stillEmpty (kept : slot.Kept) :
          ∀ other ∈ rest, other.kept (slot.keep before kept) = none := by
        intro other listed
        have apart := List.rel_of_pairwise_cons distinct listed
        rw [apart.right before kept, empty other (List.mem_cons_of_mem _ listed)]
      rw [List.map_cons, RecordField.takeItems, bind_eq_ok]
      simp only [take_eq_ok whole slot member]
      constructor
      · intro accepted
        obtain ⟨next, ⟨datum, kept, known, meant, rfl⟩, accepted⟩ := accepted
        obtain ⟨data, knownOthers, short, filled⟩ := (later others _ (stillEmpty kept)).mp accepted
        refine ⟨datum :: data, (item_data_eq_some _ _ _).mpr ⟨_, _, known, knownOthers, rfl⟩,
          Nat.succ_le_succ short, ?_⟩
        exact (fills_cons whole slot member before after datum _).mpr
          ⟨empty slot List.mem_cons_self, kept, meant, filled⟩
      · intro found
        obtain ⟨_, known, short, filled⟩ := found
        obtain ⟨datum, data, knownFirst, knownOthers, rfl⟩ := (item_data_eq_some _ _ _).mp known
        obtain ⟨_, kept, meant, filled⟩ :=
          (fills_cons whole slot member before after datum _).mp filled
        exact ⟨_, ⟨datum, kept, knownFirst, meant, rfl⟩, (later others _ (stillEmpty kept)).mpr
          ⟨data, knownOthers, Nat.le_of_succ_le_succ short, filled⟩⟩

omit whole in
theorem valuesOf_zip_length (keys : List String) (distinct : keys.Nodup) (items : List Datum)
    (key : String) : (valuesOf key ((keys.map units).zip items)).length ≤ 1 := by
  induction keys generalizing items with
  | nil => exact Nat.zero_le 1
  | cons first keys ih =>
    obtain ⟨fresh, distinct⟩ := List.nodup_cons.mp distinct
    cases items with
    | nil => exact Nat.zero_le 1
    | cons item items =>
      rw [List.map_cons, List.zip_cons_cons]
      by_cases same : key = first
      · subst same
        have none : valuesOf key ((keys.map units).zip items) = [] := by
          rw [valuesOf, List.map_eq_nil_iff, List.filter_eq_nil_iff]
          intro member listed equal
          have listed : (member.1, member.2) ∈ (keys.map units).zip items := listed
          obtain ⟨name, given, written⟩ := List.mem_map.mp (List.of_mem_zip listed).1
          have equal : units name = units key := written.trans (of_decide_eq_true equal)
          exact fresh (units_injective equal ▸ given)
        rw [valuesOf_same, none]
        exact Nat.le_refl 1
      · rw [valuesOf_other key first item _ same]
        exact ih distinct items

/-- A record is read just where it is one and each slot finds its meaning. -/
theorem record_eq_ok (depth inner : Depth) (entered : depth.enter = .ok inner) (wanted : Shape)
    (fields : Depth → List (RecordField σ)) (same : fields inner = slots.map field) (start : σ)
    (empty : ∀ slot ∈ slots, slot.kept start = none) (draft : Draft) (record : σ) :
    draft.record depth wanted fields start = .ok record ↔
      ∃ datum, draft.datum? = some datum ∧ datum.IsRecord (slots.map key) ∧
        ∀ slot ∈ slots, slot.Agrees record (datum.part? (slots.map key) slot.key) := by
  have settled (data : List (List Nat × Datum)) (slot : Slot σ) (listed : slot ∈ slots) :
      slot.Fills start record (valuesOf slot.key data) ↔
        (valuesOf slot.key data).length ≤ 1 ∧
          slot.Agrees record (valuesOf slot.key data).head? :=
    slot.fills_empty start record _ (empty slot listed)
  have distinct : (slots.map key).Nodup :=
    List.pairwise_map.mpr (whole.apart.imp Apart.keys)
  fun_cases Draft.record depth wanted fields start draft with
  | case1 items =>
    rw [entered]
    show RecordField.takeItems start (fields inner) items = .ok record ↔ _
    rw [same, takeItems_eq_ok whole slots (List.Subset.refl _) whole.apart items start record empty]
    have zipped (data : List Datum) : (Datum.list data).members (slots.map key) =
        (slots.map fun slot => units slot.key).zip data := by
      rw [Datum.members, List.map_map]
      rfl
    constructor
    · intro accepted
      obtain ⟨data, known, short, filled⟩ := accepted
      refine ⟨.list data, (Draft.list_datum items data).mpr known, ?_, ?_⟩
      · rwa [Datum.IsRecord, List.length_map]
      · intro slot listed
        rw [Datum.part?, zipped]
        exact ((settled _ slot listed).mp (filled slot listed)).2
    · intro found
      obtain ⟨datum, known, isRecord, agrees⟩ := found
      obtain ⟨data, knownItems, rfl⟩ := Option.map_eq_some_iff.mp known
      refine ⟨data, knownItems, ?_, ?_⟩
      · rwa [Datum.IsRecord, List.length_map] at isRecord
      · intro slot listed
        rw [settled _ slot listed, ← zipped]
        exact ⟨valuesOf_zip_length _ distinct data slot.key, agrees slot listed⟩
  | case2 members =>
    rw [entered]
    show RecordField.takeMembers (fields inner) start members = .ok record ↔ _
    rw [same, takeMembers_eq_ok whole members start record]
    constructor
    · intro accepted
      obtain ⟨data, known, named, filled⟩ := accepted
      have settledHere (slot : Slot σ) (listed : slot ∈ slots) :=
        (settled data slot listed).mp (filled slot listed)
      refine ⟨.object data, (Draft.object_datum members data).mpr known, ⟨named, ?_⟩, ?_⟩
      · intro name listed
        obtain ⟨slot, member, rfl⟩ := List.mem_map.mp listed
        exact (settledHere slot member).1
      · exact fun slot listed => (settledHere slot listed).2
    · intro found
      obtain ⟨datum, known, isRecord, agrees⟩ := found
      obtain ⟨data, knownMembers, rfl⟩ := Option.map_eq_some_iff.mp known
      refine ⟨data, knownMembers, isRecord.1, ?_⟩
      intro slot listed
      have single := isRecord.2 slot.key (List.mem_map_of_mem listed)
      exact (settled data slot listed).mpr ⟨single, agrees slot listed⟩
  | case3 _ noList noObject =>
    refine iff_of_false (reject_ne_ok wanted draft record) ?_
    intro found
    obtain ⟨datum, known, isRecord, _⟩ := found
    cases datum with
    | list data =>
      obtain ⟨items, same, _⟩ := (Draft.datum_eq_some _ _).mp known
      exact noList items same
    | object data =>
      obtain ⟨members, same, _⟩ := (Draft.datum_eq_some _ _).mp known
      exact noObject members same
    | _ => exact isRecord

end Whole

end Slot

end RouteTemplate.Json
