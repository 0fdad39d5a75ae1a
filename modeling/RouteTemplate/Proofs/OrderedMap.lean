import Mathlib.Data.List.Induction
import Mathlib.Data.List.Nodup
import Mathlib.Data.List.Perm.Subperm
import RouteTemplate.OrderedMap

/-!
Ordered maps as the outcome of a list of entries. The last entry of a key gives its value, the first
one its place. The keys and what is found under each of them are all that there is to know of a map
(`OrderedMap.ext`), so that the laws below are stated for these two.
-/

namespace RouteTemplate

section

variable {α : Type} [DecidableEq α]

theorem eraseDups_concat (earlier : List α) (last : α) :
    (earlier ++ [last]).eraseDups =
      if last ∈ earlier then earlier.eraseDups else earlier.eraseDups ++ [last] := by
  rw [List.eraseDups_append]
  by_cases repeated : last ∈ earlier
  · rw [if_pos repeated, List.removeAll, List.filter_cons_of_neg (by simpa using repeated)]
    simp
  · rw [if_neg repeated, List.removeAll, List.filter_cons_of_pos (by simpa using repeated)]
    rfl

theorem eraseDups_of_nodup (items : List α) (nodup : items.Nodup) : items.eraseDups = items := by
  induction items using List.reverseRecOn with
  | nil => rfl
  | append_singleton earlier last ih =>
    have split := List.nodup_append.mp nodup
    have fresh : last ∉ earlier := fun member =>
      split.2.2 last member last (List.mem_singleton_self last) rfl
    rw [eraseDups_concat, if_neg fresh, ih split.1]

theorem eraseDups_append_eraseDups (first second : List α) :
    (first ++ second.eraseDups).eraseDups = (first ++ second).eraseDups := by
  induction second using List.reverseRecOn with
  | nil => rfl
  | append_singleton earlier last ih =>
    rw [← List.append_assoc, eraseDups_concat, eraseDups_concat, ← ih]
    by_cases repeated : last ∈ earlier
    · rw [if_pos repeated, if_pos (List.mem_append_right first repeated)]
    · rw [if_neg repeated, ← List.append_assoc, eraseDups_concat]
      simp only [List.mem_append, List.mem_eraseDups]

theorem eraseDups_eraseDups_append (first second : List α) :
    (first.eraseDups ++ second).eraseDups = (first ++ second).eraseDups := by
  induction second using List.reverseRecOn with
  | nil =>
    rw [List.append_nil, List.append_nil]
    exact eraseDups_append_eraseDups [] first
  | append_singleton earlier last ih =>
    rw [← List.append_assoc, ← List.append_assoc, eraseDups_concat, eraseDups_concat, ih]
    simp only [List.mem_append, List.mem_eraseDups]

theorem eraseDups_append_of_nodup (first second : List α) (nodup : first.Nodup)
    (nodupSecond : second.Nodup) :
    (first ++ second).eraseDups = first ++ second.filter (· ∉ first) := by
  have fresh : (second.filter (· ∉ first)).Nodup := nodupSecond.filter _
  have same : second.removeAll first = second.filter (· ∉ first) := by
    apply List.filter_congr
    intro item _
    simp
  rw [List.eraseDups_append, eraseDups_of_nodup first nodup, same, eraseDups_of_nodup _ fresh]

theorem eraseDups_map {β : Type} [DecidableEq β] (items : List α) (change : α → β)
    (injective : ∀ first ∈ items, ∀ second ∈ items, change first = change second →
      first = second) : (items.map change).eraseDups = items.eraseDups.map change := by
  induction items using List.reverseRecOn with
  | nil => rfl
  | append_singleton earlier last ih =>
    have among {item : α} (member : item ∈ earlier) : item ∈ earlier ++ [last] :=
      List.mem_append_left [last] member
    have shown : last ∈ earlier ++ [last] :=
      List.mem_append_right earlier (List.mem_singleton_self last)
    have before := ih fun first member second other =>
      injective first (among member) second (among other)
    have repeated : change last ∈ earlier.map change ↔ last ∈ earlier := by
      refine ⟨?_, List.mem_map_of_mem⟩
      intro member
      obtain ⟨item, listed, same⟩ := List.mem_map.mp member
      exact injective item (among listed) last shown same ▸ listed
    rw [List.map_append, List.map_singleton, eraseDups_concat, eraseDups_concat, before]
    simp only [repeated]
    by_cases known : last ∈ earlier
    · rw [if_pos known, if_pos known]
    · rw [if_neg known, if_neg known, List.map_append, List.map_singleton]

end

namespace Names

theorem insert_toList (names : Names) (name : String) :
    (names.insert name).toList =
      if name ∈ names.toList then names.toList else names.toList ++ [name] := by
  rw [insert]
  split <;> rfl

theorem insert_eq_eraseDups (names : Names) (name : String) :
    (names.insert name).toList = (names.toList ++ [name]).eraseDups := by
  rw [insert_toList, eraseDups_concat, eraseDups_of_nodup names.toList names.nodup]

theorem ofList_toList (names : List String) : (ofList names).toList = names.eraseDups := by
  induction names using List.reverseRecOn with
  | nil => rfl
  | append_singleton earlier last ih =>
    have step : ofList (earlier ++ [last]) = (ofList earlier).insert last := by
      rw [ofList, List.foldl_append]
      rfl
    rw [step, insert_toList, ih, eraseDups_concat]
    simp only [List.mem_eraseDups]

theorem toList_injective : Function.Injective toList := by
  intro names other same
  cases names
  cases other
  cases same
  rfl

theorem ofList_same (names : Names) : ofList names.toList = names := by
  apply toList_injective
  rw [ofList_toList, eraseDups_of_nodup names.toList names.nodup]

end Names

variable {κ ν : Type} [DecidableEq κ]

theorem find?_key_eq_none (entries : List (κ × ν)) (key : κ) :
    (entries.find? fun entry => entry.1 = key) = none ↔ key ∉ entries.map Prod.fst := by
  rw [List.find?_eq_none]
  constructor
  · intro none found
    obtain ⟨entry, member, same⟩ := List.mem_map.mp found
    exact none entry member (by simpa using same)
  · intro absent entry member same
    exact absent (List.mem_map.mpr ⟨entry, member, by simpa using same⟩)

def lastValue? (entries : List (κ × ν)) (key : κ) : Option ν :=
  (entries.reverse.find? fun entry => entry.1 = key).map Prod.snd

theorem lastValue?_concat (earlier : List (κ × ν)) (last : κ × ν) (key : κ) :
    lastValue? (earlier ++ [last]) key =
      if last.1 = key then some last.2 else lastValue? earlier key := by
  rw [lastValue?, List.reverse_concat]
  by_cases same : last.1 = key
  · rw [List.find?_cons_of_pos (by simpa using same), if_pos same]
    rfl
  · rw [List.find?_cons_of_neg (by simpa using same), if_neg same]
    rfl

theorem lastValue?_eq_none (entries : List (κ × ν)) (key : κ) :
    lastValue? entries key = none ↔ key ∉ entries.map Prod.fst := by
  rw [lastValue?, Option.map_eq_none_iff, find?_key_eq_none, List.map_reverse, List.mem_reverse]

theorem lastValue?_eq_getLast? (entries : List (κ × ν)) (key : κ) :
    lastValue? entries key =
      ((entries.filter fun entry => entry.1 = key).map Prod.snd).getLast? := by
  rw [lastValue?, ← List.head?_filter, List.filter_reverse, List.head?_reverse, List.getLast?_map]

theorem lastValue?_map {μ : Type} (entries : List (κ × ν)) (change : ν → μ) (key : κ) :
    lastValue? (entries.map fun entry => (entry.1, change entry.2)) key =
      (lastValue? entries key).map change := by
  rw [lastValue?, lastValue?, ← List.map_reverse, List.find?_map, Option.map_map, Option.map_map]
  rfl

namespace OrderedMap

theorem find?_insert (map : OrderedMap κ ν) (key other : κ) (value : ν) :
    (map.insert key value).find? other = if key = other then some value else map.find? other := by
  have general (entries : List (κ × ν)) :
      ((insertEntry key value entries).find? fun entry => entry.1 = other).map Prod.snd =
        if key = other then some value
        else (entries.find? fun entry => entry.1 = other).map Prod.snd := by
    induction entries with
    | nil => by_cases same : key = other <;> simp [insertEntry, same]
    | cons entry entries ih =>
      by_cases here : entry.1 = key
      · by_cases same : key = other <;> simp [insertEntry, here, same]
      · rw [insertEntry, if_neg here]
        by_cases found : entry.1 = other
        · have different : key ≠ other := fun same => here (found.trans same.symm)
          simp [found, different]
        · rw [List.find?_cons_of_neg (by simpa using found), ih,
            List.find?_cons_of_neg (by simpa using found)]
  exact general map.entries

theorem keys_insert (map : OrderedMap κ ν) (key : κ) (value : ν) :
    (map.insert key value).keys = if key ∈ map.keys then map.keys else map.keys ++ [key] := by
  have general (entries : List (κ × ν)) :
      (insertEntry key value entries).map Prod.fst =
        if key ∈ entries.map Prod.fst then entries.map Prod.fst
        else entries.map Prod.fst ++ [key] := by
    induction entries with
    | nil => rfl
    | cons entry entries ih =>
      by_cases here : entry.1 = key
      · simp [insertEntry, here]
      · rw [insertEntry, if_neg here, List.map_cons, ih]
        by_cases later : key ∈ entries.map Prod.fst
        · simp [later]
        · have absent : key ∉ (entry :: entries).map Prod.fst := by
            simpa [Ne.symm here] using later
          rw [if_neg later, if_neg absent]
          rfl
  exact general map.entries

def insertAll (map : OrderedMap κ ν) (entries : List (κ × ν)) : OrderedMap κ ν :=
  entries.foldl (fun map entry => map.insert entry.1 entry.2) map

theorem insertAll_concat (map : OrderedMap κ ν) (earlier : List (κ × ν)) (last : κ × ν) :
    map.insertAll (earlier ++ [last]) = (map.insertAll earlier).insert last.1 last.2 := by
  rw [insertAll, List.foldl_append]
  rfl

theorem find?_insertAll (map : OrderedMap κ ν) (entries : List (κ × ν)) (key : κ) :
    (map.insertAll entries).find? key = (lastValue? entries key).or (map.find? key) := by
  induction entries using List.reverseRecOn with
  | nil => rfl
  | append_singleton earlier last ih =>
    rw [insertAll_concat, find?_insert, lastValue?_concat, ih]
    split <;> rfl

theorem keys_eraseDups (map : OrderedMap κ ν) : map.keys.eraseDups = map.keys :=
  eraseDups_of_nodup map.keys map.nodup

theorem keys_insertAll (map : OrderedMap κ ν) (entries : List (κ × ν)) :
    (map.insertAll entries).keys = (map.keys ++ entries.map Prod.fst).eraseDups := by
  induction entries using List.reverseRecOn with
  | nil => rw [List.map_nil, List.append_nil, keys_eraseDups, insertAll, List.foldl_nil]
  | append_singleton earlier last ih =>
    rw [insertAll_concat, keys_insert, ih, List.map_append, ← List.append_assoc, List.map_singleton,
      eraseDups_concat]
    simp only [List.mem_eraseDups]

theorem find?_eq_some (map : OrderedMap κ ν) (key : κ) (value : ν) :
    map.find? key = some value ↔ (key, value) ∈ map.entries := by
  have general (entries : List (κ × ν)) (nodup : (entries.map Prod.fst).Nodup) :
      (entries.find? fun entry => entry.1 = key).map Prod.snd = some value ↔
        (key, value) ∈ entries := by
    induction entries with
    | nil => simp
    | cons entry entries ih =>
      obtain ⟨fresh, rest⟩ := List.nodup_cons.mp nodup
      by_cases here : entry.1 = key
      · have later : (key, value) ∉ entries := fun member =>
          fresh (here ▸ List.mem_map_of_mem member)
        rw [List.find?_cons_of_pos (by simpa using here), List.mem_cons, or_iff_left later,
          Option.map_some, Option.some.injEq, Prod.ext_iff]
        simp [here, eq_comm]
      · have different : (key, value) ≠ entry := fun same => here (congrArg Prod.fst same).symm
        rw [List.find?_cons_of_neg (by simpa using here), ih rest, List.mem_cons,
          or_iff_right different]
  exact general map.entries map.nodup

theorem find?_eq_none (map : OrderedMap κ ν) (key : κ) : map.find? key = none ↔ key ∉ map.keys := by
  rw [find?, Option.map_eq_none_iff, find?_key_eq_none, keys]

theorem entries_eq_map (map : OrderedMap κ ν) :
    map.entries.map (fun entry => (entry.1, some entry.2)) =
      map.keys.map fun key => (key, map.find? key) := by
  rw [keys, List.map_map]
  apply List.map_congr_left
  intro entry member
  exact congrArg (Prod.mk entry.1) ((find?_eq_some map entry.1 entry.2).mpr member).symm

theorem ext (first second : OrderedMap κ ν) (sameKeys : first.keys = second.keys)
    (sameValues : ∀ key, first.find? key = second.find? key) : first = second := by
  have entries : first.entries.map (fun entry => (entry.1, some entry.2)) =
      second.entries.map fun entry => (entry.1, some entry.2) := by
    rw [entries_eq_map, entries_eq_map, sameKeys]
    exact congrArg (second.keys.map ·) (funext fun key => congrArg (Prod.mk key) (sameValues key))
  have injective : Function.Injective fun entry : κ × ν => (entry.1, some entry.2) := by
    intro entry other same
    simpa [Prod.ext_iff] using same
  cases first
  cases second
  simpa using List.map_injective_iff.mpr injective entries

theorem lastValue?_entries (map : OrderedMap κ ν) (key : κ) :
    lastValue? map.entries key = map.find? key := by
  cases found : map.find? key with
  | none => exact (lastValue?_eq_none _ _).mpr ((find?_eq_none map key).mp found)
  | some value =>
    have member := (find?_eq_some map key value).mp found
    cases last : lastValue? map.entries key with
    | none => exact absurd (List.mem_map_of_mem member) ((lastValue?_eq_none _ _).mp last)
    | some other =>
      obtain ⟨entry, foundLast, rfl⟩ := Option.map_eq_some_iff.mp last
      have same : entry.1 = key := by simpa using List.find?_some foundLast
      have memberLast := List.mem_reverse.mp (List.mem_of_find?_eq_some foundLast)
      have foundOther := (find?_eq_some map entry.1 entry.2).mpr memberLast
      rw [same, found] at foundOther
      rw [Option.some.inj foundOther]

theorem sameEntries_iff [DecidableEq ν] (first second : OrderedMap κ ν) :
    first.sameEntries second = true ↔ first.entries.Perm second.entries := by
  have distinct (map : OrderedMap κ ν) : map.entries.Nodup := List.Nodup.of_map Prod.fst map.nodup
  simp only [sameEntries, size, Bool.and_eq_true, beq_iff_eq, List.all_eq_true]
  constructor
  · intro same
    have included : first.entries ⊆ second.entries := fun entry member =>
      (find?_eq_some second entry.1 entry.2).mp (same.2 entry member)
    exact ((distinct first).subperm included).perm_of_length_le (Nat.le_of_eq same.1.symm)
  · intro same
    refine ⟨same.length_eq, ?_⟩
    intro entry member
    exact (find?_eq_some second entry.1 entry.2).mpr (same.subset member)

theorem sameEntries_iff_find? [DecidableEq ν] (first second : OrderedMap κ ν) :
    first.sameEntries second = true ↔ ∀ key, first.find? key = second.find? key := by
  have distinct (map : OrderedMap κ ν) : map.entries.Nodup := List.Nodup.of_map Prod.fst map.nodup
  rw [sameEntries_iff, List.perm_ext_iff_of_nodup (distinct first) (distinct second), Prod.forall]
  apply forall_congr'
  intro key
  simp only [← find?_eq_some]
  exact Option.ext_iff.symm

end OrderedMap

end RouteTemplate
