import RouteTemplate.Proofs.OrderedMap
import RouteTemplate.Registry

namespace RouteTemplate.Registry

theorem registerAll_eq_insertAll (registry : Registry) (entries : List (Action × List String)) :
    registry.registerAll entries =
      registry.insertAll (entries.map fun entry => (entry.1, Names.ofList entry.2)) := by
  rw [registerAll, OrderedMap.insertAll, List.foldl_map]
  rfl

theorem registerAll_append (registry : Registry) (first second : List (Action × List String)) :
    registry.registerAll (first ++ second) = (registry.registerAll first).registerAll second := by
  rw [registerAll, List.foldl_append]
  rfl

theorem ofList_append (first second : List (Action × List String)) :
    ofList (first ++ second) = (ofList first).registerAll second :=
  registerAll_append empty first second

theorem namesFor?_registerAll (registry : Registry) (entries : List (Action × List String))
    (action : Action) :
    (registry.registerAll entries).namesFor? action =
      ((lastValue? entries action).map List.eraseDups).or (registry.namesFor? action) := by
  rw [namesFor?, registerAll_eq_insertAll, OrderedMap.find?_insertAll, lastValue?_map]
  cases lastValue? entries action with
  | none => rfl
  | some names => exact congrArg some (Names.ofList_toList names)

theorem keys_registerAll (registry : Registry) (entries : List (Action × List String)) :
    (registry.registerAll entries).keys = (registry.keys ++ entries.map Prod.fst).eraseDups := by
  rw [registerAll_eq_insertAll, OrderedMap.keys_insertAll, List.map_map]
  rfl

theorem namesFor?_ofList (entries : List (Action × List String)) (action : Action) :
    (ofList entries).namesFor? action = (lastValue? entries action).map List.eraseDups := by
  rw [ofList, namesFor?_registerAll]
  exact Option.or_none

theorem keys_ofList (entries : List (Action × List String)) :
    (ofList entries).keys = (entries.map Prod.fst).eraseDups :=
  keys_registerAll empty entries

theorem toList_keys (registry : Registry) : registry.toList.map Prod.fst = registry.keys := by
  rw [toList, List.map_map]
  rfl

theorem ext (first second : Registry) (sameKeys : first.keys = second.keys)
    (sameNames : ∀ action, first.namesFor? action = second.namesFor? action) : first = second := by
  apply OrderedMap.ext first second sameKeys
  intro action
  exact Option.map_injective Names.toList_injective (sameNames action)

theorem namesFor?_eq_none (registry : Registry) (action : Action) :
    registry.namesFor? action = none ↔ action ∉ registry.keys := by
  rw [namesFor?, Option.map_eq_none_iff, OrderedMap.find?_eq_none]

theorem ofMap_ofList (entries : List (Action × List String)) :
    ofMap (OrderedMap.ofList entries) = ofList entries := by
  have found (action : Action) :
      lastValue? (OrderedMap.ofList entries).entries action = lastValue? entries action := by
    rw [OrderedMap.lastValue?_entries]
    exact (OrderedMap.find?_insertAll _ entries action).trans Option.or_none
  have keys : (OrderedMap.ofList entries).keys = (entries.map Prod.fst).eraseDups :=
    OrderedMap.keys_insertAll _ entries
  apply ext
  · calc
      (ofMap (OrderedMap.ofList entries)).keys = (OrderedMap.ofList entries).keys.eraseDups :=
        keys_ofList _
      _ = (OrderedMap.ofList entries).keys := OrderedMap.keys_eraseDups _
      _ = (ofList entries).keys := by rw [keys, keys_ofList]
  · intro action
    rw [ofMap, namesFor?_ofList, namesFor?_ofList, found]

theorem ofList_toList (registry : Registry) : ofList registry.toList = registry := by
  have same : registry.toList.map (fun entry => (entry.1, Names.ofList entry.2)) =
      registry.entries := by
    rw [toList, List.map_map]
    conv_rhs => rw [← List.map_id registry.entries]
    apply List.map_congr_left
    intro entry _
    exact congrArg (Prod.mk entry.1) (Names.ofList_same entry.2)
  rw [ofList, registerAll_eq_insertAll, same]
  apply OrderedMap.ext
  · exact (OrderedMap.keys_insertAll _ _).trans (OrderedMap.keys_eraseDups registry)
  · intro action
    rw [OrderedMap.find?_insertAll, OrderedMap.lastValue?_entries]
    exact Option.or_none

end RouteTemplate.Registry
