import RouteTemplate.Proofs.Action
import RouteTemplate.Proofs.Json.Decoding
import RouteTemplate.Proofs.Registry.Entries

namespace RouteTemplate.Registry

open Json

inductive Lists : List (List Nat × Datum) → List (Action × List String) → Prop where
  | nil : Lists [] []
  | cons {key : String} {action : Action} {names : List String}
    {members : List (List Nat × Datum)} {entries : List (Action × List String)}
    (parsed : Action.parse key = .ok action) (following : Lists members entries) :
    Lists ((units key, .strings names) :: members) ((action, names) :: entries)

def Denotes (datum : Datum) (registry : Registry) : Prop :=
  ∃ members entries, datum = .object members ∧ Lists members entries ∧ registry = ofList entries

theorem denotes_empty (registry : Registry) : Denotes (.object []) registry ↔ registry = empty := by
  constructor
  · intro denotes
    obtain ⟨_, _, same, lists, made⟩ := denotes
    cases same
    cases lists
    exact made
  · intro same
    exact ⟨[], [], rfl, .nil, same⟩

theorem ofKey_eq_ok (key : String) (action : Action) :
    Action.ofKey key = .ok action ↔ Action.parse key = .ok action := by
  rw [Action.ofKey]
  cases Action.parse key <;> simp

def takeEntry (depth : Depth) (map : OrderedMap Action (List String)) (action : Action)
    (value : Draft) : Except ReadError (OrderedMap Action (List String)) := do
  return OrderedMap.insert map action (← value.strings depth .sequence)

def takeEntries (depth : Depth) (map : OrderedMap Action (List String)) (members : Members) :
    Except ReadError (OrderedMap Action (List String)) :=
  members.foldM (fun _ key => Action.ofKey key) (takeEntry depth) map

theorem decode_object (depth inner : Depth) (entered : depth.enter = .ok inner)
    (members : Members) :
    decode depth (.object members) = (do
      return ofMap (← takeEntries inner OrderedMap.empty members)) := by
  rw [decode, entered]
  rfl

theorem takeEntry_eq_ok (depth : Depth) (allows : depth.Allows 1)
    (before after : OrderedMap Action (List String)) (action : Action) (value : Draft) :
    takeEntry depth before action value = .ok after ↔
      ∃ names, value.datum? = some (.strings names) ∧ after = before.insert action names := by
  have reads := Draft.strings_reads depth .sequence allows value
  simp only [exists_eq_right] at reads
  simp only [takeEntry, bind_eq_ok, reads]
  simp [pure, Except.pure, eq_comm]

theorem takeEntries_eq_ok (depth : Depth) (allows : depth.Allows 1) (members : Members)
    (before after : OrderedMap Action (List String)) :
    takeEntries depth before members = .ok after ↔
      ∃ data entries, members.data? = some data ∧ Lists data entries ∧
        after = before.insertAll entries := by
  cases members with
  | stop ending =>
    rw [takeEntries, foldM_stop_eq_ok]
    constructor
    · intro accepted
      obtain ⟨rfl, rfl⟩ := accepted
      exact ⟨[], [], rfl, .nil, rfl⟩
    · intro found
      obtain ⟨data, entries, known, lists, rfl⟩ := found
      obtain ⟨rfl, rfl⟩ := members_stop_data ending data known
      cases lists
      exact ⟨rfl, rfl⟩
  | member key value others =>
    have later (next : OrderedMap Action (List String)) :=
      takeEntries_eq_ok depth allows others next after
    rw [takeEntries, foldM_member_eq_ok]
    simp only [ofKey_eq_ok, takeEntry_eq_ok depth allows]
    constructor
    · intro accepted
      obtain ⟨name, action, _, knownKey, parsed, ⟨names, knownValue, rfl⟩, rest⟩ := accepted
      obtain ⟨data, entries, knownOthers, lists, rfl⟩ := (later _).mp rest
      exact ⟨_, (action, names) :: entries, (member_data_eq_some _ _ _ _).mpr
        ⟨_, _, data, knownKey, knownValue, knownOthers, rfl⟩, .cons parsed lists, rfl⟩
    · intro found
      obtain ⟨_, _, known, lists, rfl⟩ := found
      obtain ⟨_, _, data, knownKey, knownValue, knownOthers, rfl⟩ :=
        (member_data_eq_some _ _ _ _).mp known
      cases lists with
      | cons parsed lists =>
        exact ⟨_, _, _, knownKey, parsed, ⟨_, knownValue, rfl⟩,
          (later _).mpr ⟨data, _, knownOthers, lists, rfl⟩⟩

theorem decode_reads (depth : Depth) (allows : depth.Allows 2) : Reads (decode depth) Denotes := by
  obtain ⟨inner, entered, allowsInner⟩ := allows.enter
  intro draft registry
  fun_cases decode depth draft with
  | case1 members =>
    have same := decode_object depth inner entered members
    rw [decode] at same
    rw [same, bind_eq_ok]
    simp only [takeEntries_eq_ok inner allowsInner]
    constructor
    · intro accepted
      obtain ⟨_, ⟨data, entries, known, lists, rfl⟩, same⟩ := accepted
      cases same
      exact ⟨.object data, (Draft.object_datum members data).mpr known, data, entries, rfl, lists,
        ofMap_ofList entries⟩
    · intro found
      obtain ⟨_, known, data, entries, rfl, lists, rfl⟩ := found
      have knownMembers := (Draft.object_datum members data).mp known
      exact ⟨_, ⟨data, entries, knownMembers, lists, rfl⟩,
        congrArg Except.ok (ofMap_ofList entries)⟩
  | case2 _ other =>
    refine iff_of_false (reject_ne_ok .map draft registry) ?_
    intro found
    obtain ⟨_, known, data, entries, rfl, _⟩ := found
    obtain ⟨members, same, _⟩ := (Draft.datum_eq_some _ _).mp known
    exact other members same

theorem takeEntries_cases (depth : Depth) (allows : depth.Allows 1) (members : Members)
    (listed : List (String × List String))
    (known : members.data? = some (listed.map fun entry => (units entry.1, .strings entry.2)))
    (before : OrderedMap Action (List String)) :
    (∃ after, takeEntries depth before members = .ok after) ∨
      ∃ entry ∈ listed, ∃ fault, Action.parse entry.1 = .error fault ∧
        takeEntries depth before members = .error (.badAction fault) := by
  induction listed generalizing members before with
  | nil =>
    rw [(members_data_nil members).mp known]
    exact Or.inl ⟨before, rfl⟩
  | cons entry listed ih =>
    obtain ⟨key, value, others, knownKey, knownValue, knownOthers, rfl⟩ :=
      members_data_cons members _ _ _ known
    have first := foldM_member (fun _ key => Action.ofKey key) (takeEntry depth) before key value
      others entry.1 knownKey
    cases parsed : Action.parse entry.1 with
    | error fault =>
      refine Or.inr ⟨entry, List.mem_cons_self, fault, parsed, ?_⟩
      rw [takeEntries, first, Action.ofKey, parsed]
      rfl
    | ok action =>
      have taken := (takeEntry_eq_ok depth allows before _ action value).mpr
        ⟨entry.2, knownValue, rfl⟩
      have step : takeEntries depth before (.member key value others) =
          takeEntries depth (before.insert action entry.2) others := by
        rw [takeEntries, first, (ofKey_eq_ok entry.1 action).mpr parsed]
        show (takeEntry depth before action value >>= fun next => takeEntries depth next others) = _
        rw [taken]
        rfl
      rw [step]
      rcases ih others knownOthers (before.insert action entry.2) with accepted | refused
      · exact Or.inl accepted
      · obtain ⟨other, member, refused⟩ := refused
        exact Or.inr ⟨other, List.mem_cons_of_mem entry member, refused⟩

theorem read_eq_ok (text : String) (registry : Registry) :
    read text = .ok registry ↔ ∃ datum, Padded datum text.toList ∧ Denotes datum registry := by
  have allows : Depth.limited.Allows 2 := by simp [Depth.limited, Depth.Allows]
  exact read_eq_ok_iff (decode .limited) Denotes (decode_reads _ allows) text registry

end RouteTemplate.Registry
