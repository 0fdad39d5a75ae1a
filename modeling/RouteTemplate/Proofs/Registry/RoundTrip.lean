import RouteTemplate.Proofs.Json.Writing
import RouteTemplate.Proofs.Registry.Decoding

/-!
Writing a registry as JSON and reading it again. The members are read under the texts of the
actions, so that actions whose texts cannot be told apart become one, and an action that cannot be
read does not come back.
-/

namespace RouteTemplate.Registry

open Json

def written (entry : Action × List String) : String × List String := (entry.1.text, entry.2)

/-- Whether the second entries are what is read where the first are written. -/
structure Retold (entries found : List (Action × List String)) : Prop where
  readable : ∀ entry ∈ found, entry.1.Readable
  same : found.map written = entries.map written

theorem toJson_datum (registry : Registry) :
    registry.toJson.datum =
      .object (registry.toList.map fun entry => (units entry.1.text, .strings entry.2)) := by
  rw [toJson, Value.datum, Value.memberData_eq_map, List.map_map]
  congr 1
  apply List.map_congr_left
  intro entry _
  show (units entry.1.text, Value.datum (.list (entry.2.map .text))) = _
  rw [Value.datum, Value.itemData_eq_map, List.map_map]
  rfl

theorem lists_cons (key : String) (names : List String) (members : List (List Nat × Datum))
    (entries : List (Action × List String)) :
    Lists ((units key, .strings names) :: members) entries ↔
      ∃ action others, Action.parse key = .ok action ∧ Lists members others ∧
        entries = (action, names) :: others := by
  constructor
  · intro lists
    generalize given : (units key, Datum.strings names) = member at lists
    cases lists with
    | cons parsed following =>
      obtain ⟨sameKey, sameNames⟩ := Prod.mk.inj given
      rw [units_injective sameKey, Datum.strings_injective sameNames]
      exact ⟨_, _, parsed, following, rfl⟩
  · intro found
    obtain ⟨action, others, parsed, following, rfl⟩ := found
    exact .cons parsed following

theorem lists_written (entries found : List (Action × List String)) :
    Lists (entries.map fun entry => (units entry.1.text, .strings entry.2)) found ↔
      Retold entries found := by
  induction entries generalizing found with
  | nil =>
    constructor
    · intro lists
      cases lists
      exact ⟨fun _ member => absurd member List.not_mem_nil, rfl⟩
    · intro retold
      rw [List.map_eq_nil_iff.mp retold.same]
      exact .nil
  | cons entry entries ih =>
    rw [List.map_cons, lists_cons]
    simp only [Action.parse_eq_ok_iff, ih]
    constructor
    · intro listed
      obtain ⟨action, others, ⟨readable, same⟩, retold, rfl⟩ := listed
      refine ⟨List.forall_mem_cons.mpr ⟨readable, retold.readable⟩, ?_⟩
      rw [List.map_cons, List.map_cons, retold.same, written, written, same]
    · intro retold
      obtain ⟨⟨action, names⟩, others, rfl, same, rest⟩ := List.map_eq_cons_iff.mp retold.same
      obtain ⟨readable, readableOthers⟩ := List.forall_mem_cons.mp retold.readable
      obtain ⟨sameText, rfl⟩ := Prod.mk.inj same
      exact ⟨action, others, ⟨readable, sameText⟩, ⟨readableOthers, rest⟩, rfl⟩

theorem denotes_written (registry other : Registry) :
    Denotes registry.toJson.datum other ↔
      ∃ found, Retold registry.toList found ∧ other = ofList found := by
  rw [toJson_datum]
  constructor
  · intro denotes
    obtain ⟨_, found, same, lists, made⟩ := denotes
    cases same
    exact ⟨found, (lists_written _ _).mp lists, made⟩
  · intro read
    obtain ⟨found, retold, made⟩ := read
    exact ⟨_, found, rfl, (lists_written _ _).mpr retold, made⟩

theorem decode_written (registry : Registry) (depth : Depth) (allows : depth.Allows 2)
    (draft : Draft) (known : draft.datum? = some registry.toJson.datum) :
    (∃ other, decode depth draft = .ok other) ∨
      ∃ action ∈ registry.keys,
        decode depth draft = .error (.badAction (.emptyHalf action.text)) := by
  obtain ⟨inner, entered, allowsInner⟩ := allows.enter
  rw [toJson_datum] at known
  obtain ⟨members, rfl, knownMembers⟩ := (Draft.datum_eq_some _ _).mp known
  have listed : members.data? =
      some ((registry.toList.map written).map fun entry => (units entry.1, .strings entry.2)) := by
    rw [knownMembers, List.map_map]
    rfl
  rw [decode_object depth inner entered]
  rcases takeEntries_cases inner allowsInner members _ listed .empty with accepted | refused
  · obtain ⟨map, taken⟩ := accepted
    rw [taken]
    exact Or.inl ⟨_, rfl⟩
  · obtain ⟨_, member, fault, parsed, taken⟩ := refused
    obtain ⟨entry, there, rfl⟩ := List.mem_map.mp member
    have action : entry.1 ∈ registry.keys := by
      rw [← toList_keys]
      exact List.mem_map_of_mem there
    rcases Action.parse_text_cases entry.1 with ⟨_, accepted⟩ | refused
    · cases accepted.symm.trans parsed
    · cases refused.symm.trans parsed
      rw [taken]
      exact Or.inr ⟨entry.1, action, rfl⟩

namespace Retold

variable {entries found : List (Action × List String)} (retold : Retold entries found)

include retold

theorem keys_readable : ∀ action ∈ (ofList found).keys, action.Readable := by
  intro action member
  rw [keys_ofList, List.mem_eraseDups] at member
  obtain ⟨entry, listed, rfl⟩ := List.mem_map.mp member
  exact retold.readable entry listed

theorem keys_text : (ofList found).keys.map Action.text =
    (entries.map fun entry => entry.1.text).eraseDups := by
  have injective : ∀ first ∈ found.map Prod.fst, ∀ second ∈ found.map Prod.fst,
      first.text = second.text → first = second := by
    intro first member second other same
    obtain ⟨entry, listed, rfl⟩ := List.mem_map.mp member
    obtain ⟨last, listedLast, rfl⟩ := List.mem_map.mp other
    exact Action.text_injOn _ _ (retold.readable entry listed)
      (retold.readable last listedLast) same
  calc
    (ofList found).keys.map Action.text = (found.map Prod.fst).eraseDups.map Action.text := by
      rw [keys_ofList]
    _ = ((found.map Prod.fst).map Action.text).eraseDups :=
      (eraseDups_map (found.map Prod.fst) Action.text injective).symm
    _ = ((found.map written).map Prod.fst).eraseDups := by
      rw [List.map_map, List.map_map]
      rfl
    _ = (entries.map fun entry => entry.1.text).eraseDups := by
      rw [retold.same, List.map_map]
      rfl

end Retold

theorem sameEntries_of_unreadable (registry other : Registry)
    (readable : ∀ action ∈ other.keys, action.Readable) (action : Action)
    (member : action ∈ registry.keys) (unreadable : ¬ action.Readable) :
    registry.sameEntries other = false ∧ other.sameEntries registry = false := by
  have different : ¬ registry.entries.Perm other.entries := by
    intro permuted
    have there := (permuted.map Prod.fst).mem_iff.mp member
    exact unreadable (readable action there)
  constructor
  · rw [← Bool.not_eq_true, OrderedMap.sameEntries_iff]
    exact different
  · rw [← Bool.not_eq_true, OrderedMap.sameEntries_iff]
    exact fun permuted => different permuted.symm

end RouteTemplate.Registry
