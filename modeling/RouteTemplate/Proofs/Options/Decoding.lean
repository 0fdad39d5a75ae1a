import RouteTemplate.Options
import RouteTemplate.Proofs.Json.Records
import RouteTemplate.Proofs.OrderedMap

namespace RouteTemplate.Options

open Json

def keys : List String := ["ignore", "params"]

/-- Whether a value is a record of options that gives these names and this flag, where it gives
any. -/
structure Gives (datum : Datum) (names : Option (List String)) (params : Option Bool) : Prop where
  record : datum.IsRecord keys
  names : datum.part? keys "ignore" = names.map .strings
  params : datum.part? keys "params" = params.map .boolean

def Denotes (datum : Datum) (options : Options) : Prop :=
  ∃ names params, Gives datum names params ∧
    options = ⟨Names.ofList (names.getD ["format"]), params.getD true⟩

def ignoredSlot (depth : Depth) : Slot Given where
  key := "ignore"
  Kept := Names
  kept := (·.ignored)
  keep given names := { given with ignored := some names }
  read value := do return Names.ofList (← value.strings depth .set)
  meaning datum kept := ∃ names, datum = .strings names ∧ kept = Names.ofList names

def paramsSlot : Slot Given where
  key := "params"
  Kept := Bool
  kept := (·.params)
  keep given flag := { given with params := some flag }
  read := Draft.boolean
  meaning datum flag := datum = .boolean flag

theorem fields_eq (depth : Depth) :
    fields depth = [ignoredSlot depth, paramsSlot].map Slot.field := by
  have ignored (given : Given) (value : Draft) :
      (do return { given with ignored := some (Names.ofList (← value.strings depth .set)) } :
        Except ReadError Given) = (ignoredSlot depth).field.take given value := by
    cases read : value.strings depth .set <;> simp [Slot.field, ignoredSlot, read]
  rw [fields, funext fun given => funext (ignored given)]
  rfl

theorem whole (depth : Depth) (allows : depth.Allows 1) :
    Slot.Whole [ignoredSlot depth, paramsSlot] where
  reads := by
    simp only [forall_mem_pair]
    constructor
    · intro draft kept
      have strings (names : List String) := Draft.strings_reads depth .set allows draft names
      simp only [exists_eq_right] at strings
      refine (bind_pure_eq_ok _ _ _).trans ?_
      simp only [strings]
      constructor
      · intro found
        rcases found with ⟨names, known, same⟩
        exact ⟨_, known, names, rfl, same⟩
      · intro found
        rcases found with ⟨_, known, names, rfl, same⟩
        exact ⟨names, known, same⟩
    · exact Draft.boolean_reads
  kept_keep := by
    simp only [forall_mem_pair]
    exact ⟨fun _ _ => rfl, fun _ _ => rfl⟩
  apart :=
    List.pairwise_pair.mpr ⟨by simp [ignoredSlot, paramsSlot], fun _ _ => rfl, fun _ _ => rfl⟩
  ext first second same := by
    simp only [forall_mem_pair] at same
    rcases same with ⟨ignored, params⟩
    cases first
    cases second
    congr

theorem ignoredSlot_agrees (depth : Depth) (given : Given) (part : Option Datum) :
    (ignoredSlot depth).Agrees given part ↔
      ∃ names : Option (List String), part = names.map .strings ∧
        given.ignored = names.map Names.ofList := by
  cases part with
  | none =>
    constructor
    · intro missing
      exact ⟨none, rfl, missing⟩
    · intro found
      rcases found with ⟨names, written, kept⟩
      rw [Option.map_eq_none_iff.mp written.symm] at kept
      exact kept
  | some datum =>
    constructor
    · intro agrees
      rcases agrees with ⟨_, kept, names, rfl, rfl⟩
      exact ⟨some names, rfl, kept⟩
    · intro found
      rcases found with ⟨names, written, kept⟩
      rcases Option.map_eq_some_iff.mp written.symm with ⟨listed, rfl, rfl⟩
      exact ⟨_, kept, listed, rfl, rfl⟩

theorem paramsSlot_agrees (given : Given) (part : Option Datum) :
    paramsSlot.Agrees given part ↔ part = given.params.map .boolean := by
  cases part with
  | none => exact Option.map_eq_none_iff.symm.trans eq_comm
  | some datum =>
    constructor
    · intro agrees
      rcases agrees with ⟨flag, kept, rfl⟩
      rw [show given.params = some flag from kept]
      rfl
    · intro written
      rcases Option.map_eq_some_iff.mp written.symm with ⟨flag, kept, same⟩
      exact ⟨flag, kept, same.symm⟩

theorem record_reads (depth : Depth) (allows : depth.Allows 2) (draft : Draft) (given : Given) :
    draft.record depth .options fields {} = .ok given ↔
      ∃ (datum : Datum) (names : Option (List String)), draft.datum? = some datum ∧
        Gives datum names given.params ∧ given.ignored = names.map Names.ofList := by
  rcases allows.enter with ⟨inner, entered, allowsInner⟩
  have empty : ∀ slot ∈ [ignoredSlot inner, paramsSlot], slot.kept {} = none := by
    simp only [forall_mem_pair]
    exact ⟨rfl, rfl⟩
  have record := Slot.record_eq_ok (whole inner allowsInner) depth inner entered .options fields
    (fields_eq inner) {} empty draft given
  simp only [forall_mem_pair] at record
  apply record.trans
  constructor
  · intro accepted
    rcases accepted with ⟨datum, known, isRecord, ignored, params⟩
    rcases (ignoredSlot_agrees inner given _).mp ignored with ⟨names, written, kept⟩
    exact ⟨datum, names, known, ⟨isRecord, written, (paramsSlot_agrees given _).mp params⟩, kept⟩
  · intro found
    rcases found with ⟨datum, names, known, gives, kept⟩
    exact ⟨datum, known, gives.record,
      (ignoredSlot_agrees inner given _).mpr ⟨names, gives.names, kept⟩,
      (paramsSlot_agrees given _).mpr gives.params⟩

theorem decode_reads (depth : Depth) (allows : depth.Allows 2) :
    Reads (decode depth) Denotes := by
  have ignored (names : Option (List String)) :
      (names.map Names.ofList).getD default.ignored = Names.ofList (names.getD ["format"]) := by
    cases names <;> rfl
  intro draft options
  apply (bind_pure_eq_ok _ _ _).trans
  simp only [record_reads depth allows]
  constructor
  · intro accepted
    rcases accepted with ⟨given, ⟨datum, names, known, gives, kept⟩, rfl⟩
    refine ⟨datum, known, names, given.params, gives, ?_⟩
    rw [kept, ignored]
    rfl
  · intro found
    rcases found with ⟨datum, known, names, params, gives, rfl⟩
    refine ⟨⟨names.map Names.ofList, params⟩, ⟨datum, names, known, gives, rfl⟩, ?_⟩
    rw [ignored]
    rfl

theorem read_eq_ok (text : String) (options : Options) :
    read text = .ok options ↔ ∃ datum, Padded datum text.toList ∧ Denotes datum options := by
  have allows : Depth.limited.Allows 2 := by simp [Depth.limited, Depth.Allows]
  exact read_eq_ok_iff (decode .limited) Denotes (decode_reads _ allows) text options

theorem toJson_gives (options : Options) :
    Gives options.toJson.datum (some options.ignored.toList) (some options.params) := by
  constructor
  · exact Value.object_isRecord keys _ (by simp)
  · rw [toJson, Value.object_part?]
    show some (Value.datum (.list (options.ignored.toList.map .text))) = _
    rw [Value.datum, Value.itemData_eq_map, List.map_map]
    rfl
  · rw [toJson, Value.object_part?]
    rfl

theorem read_toJson (options : Options) : read options.toJson.compact = .ok options := by
  apply (read_eq_ok _ _).mpr
  refine ⟨_, options.toJson.compact_spells.padded, _, _, options.toJson_gives, ?_⟩
  rw [Option.getD_some, Option.getD_some, Names.ofList_same]

end RouteTemplate.Options
