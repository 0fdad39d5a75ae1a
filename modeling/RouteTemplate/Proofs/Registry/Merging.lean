import RouteTemplate.Proofs.Registry.Entries

namespace RouteTemplate.Registry

theorem registerAll_ofList (registry : Registry) (entries : List (Action × List String)) :
    registry.registerAll (ofList entries).toList = registry.registerAll entries := by
  apply ext
  · rw [keys_registerAll, keys_registerAll, toList_keys, keys_ofList, eraseDups_append_eraseDups]
  · intro action
    rw [namesFor?_registerAll, namesFor?_registerAll, ← namesFor?_ofList, ofList_toList,
      namesFor?_ofList]

theorem keys_extend (first second : Registry) :
    (first.extend second).keys = first.keys ++ second.keys.filter (· ∉ first.keys) := by
  rw [extend, keys_registerAll, toList_keys]
  exact eraseDups_append_of_nodup first.keys second.keys first.nodup second.nodup

theorem namesFor?_extend (first second : Registry) (action : Action) :
    (first.extend second).namesFor? action =
      (second.namesFor? action).or (first.namesFor? action) := by
  rw [extend, namesFor?_registerAll, ← namesFor?_ofList, ofList_toList]

theorem extend_assoc (first second third : Registry) :
    (first.extend second).extend third = first.extend (second.extend third) := by
  have made : second.extend third = ofList (second.toList ++ third.toList) := by
    rw [ofList_append, ofList_toList, extend]
  calc
    (first.extend second).extend third =
        first.registerAll (second.toList ++ third.toList) := (registerAll_append _ _ _).symm
    _ = first.registerAll (ofList (second.toList ++ third.toList)).toList :=
      (registerAll_ofList first _).symm
    _ = first.extend (second.extend third) := by rw [made, extend]

theorem extend_self (registry : Registry) : registry.extend registry = registry := by
  apply ext
  · have known : registry.keys.filter (· ∉ registry.keys) = [] := by simp
    rw [keys_extend, known, List.append_nil]
  · intro action
    rw [namesFor?_extend, Option.or_self]

theorem sameEntries_extend (first second : Registry) :
    (first.extend second).sameEntries (second.extend first) = true ↔
      ∀ action, action ∈ first.keys → action ∈ second.keys →
        first.namesFor? action = second.namesFor? action := by
  rw [OrderedMap.sameEntries_iff_find?]
  apply forall_congr'
  intro action
  have listed : (first.extend second).find? action = (second.extend first).find? action ↔
      (first.extend second).namesFor? action = (second.extend first).namesFor? action :=
    (Option.map_injective Names.toList_injective).eq_iff.symm
  have there (registry : Registry) :
      action ∈ registry.keys ↔ registry.namesFor? action ≠ none := by
    rw [ne_eq, namesFor?_eq_none, not_not]
  rw [listed, namesFor?_extend, namesFor?_extend, there, there]
  cases first.namesFor? action <;> cases second.namesFor? action <;> simp [eq_comm]

/-- What it means to take in another registry, for all registries, each of which is made by
registering its entries (`ofList_toList`). The names of the other registry count where it has any,
and the actions stay in their places, with the new ones behind them in the order of the other. How
several registries are grouped does not matter, not even to the order of the actions. Which of two
comes first changes no more than this order exactly if they have the same names for the actions
that they share. -/
theorem extend_merges (first second third : Registry) :
    (∀ action, (first.extend second).namesFor? action =
      (second.namesFor? action).or (first.namesFor? action)) ∧
    (first.extend second).keys = first.keys ++ second.keys.filter (· ∉ first.keys) ∧
    (first.extend second).extend third = first.extend (second.extend third) ∧
    empty.extend first = first ∧
    first.extend empty = first ∧
    first.extend first = first ∧
    ((first.extend second).sameEntries (second.extend first) = true ↔
      ∀ action, action ∈ first.keys → action ∈ second.keys →
        first.namesFor? action = second.namesFor? action) :=
  ⟨namesFor?_extend first second, keys_extend first second, extend_assoc first second third,
    ofList_toList first, rfl, extend_self first, sameEntries_extend first second⟩

example :
    let first := ofList [(⟨"a", "x"⟩, ["one"]), (⟨"b", "y"⟩, ["two"])]
    let second := ofList [(⟨"c", "z"⟩, []), (⟨"b", "y"⟩, ["three"])]
    (first.extend second).toList =
        [(⟨"a", "x"⟩, ["one"]), (⟨"b", "y"⟩, ["three"]), (⟨"c", "z"⟩, [])] ∧
      (first.extend second).sameEntries (second.extend first) = false := by decide

end RouteTemplate.Registry
