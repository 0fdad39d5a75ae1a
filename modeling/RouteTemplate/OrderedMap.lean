/-!
Finite maps that remember the order in which their keys were first given, and lists of names without
repeats. Writing to a key that is there already changes its value and leaves it in its place.
-/

namespace RouteTemplate

structure Names where
  toList : List String
  nodup : toList.Nodup
  deriving DecidableEq, Repr

namespace Names

def empty : Names := ⟨[], .nil⟩

instance : Inhabited Names := ⟨empty⟩

def contains (names : Names) (name : String) : Bool := names.toList.contains name

def insert (names : Names) (name : String) : Names :=
  if absent : name ∈ names.toList then names
  else ⟨names.toList ++ [name], List.nodup_append.2 ⟨names.nodup, by simp, by
    intro other member last found same
    exact absent (List.mem_singleton.1 found ▸ same ▸ member)⟩⟩

def ofList (names : List String) : Names := names.foldl insert empty

end Names

structure OrderedMap (κ ν : Type) where
  entries : List (κ × ν)
  nodup : (entries.map Prod.fst).Nodup

namespace OrderedMap

variable {κ ν : Type}

def empty : OrderedMap κ ν := ⟨[], .nil⟩

instance : Inhabited (OrderedMap κ ν) := ⟨empty⟩

def keys (map : OrderedMap κ ν) : List κ := map.entries.map Prod.fst

def size (map : OrderedMap κ ν) : Nat := map.entries.length

def isEmpty (map : OrderedMap κ ν) : Bool := map.entries.isEmpty

variable [DecidableEq κ]

def find? (map : OrderedMap κ ν) (key : κ) : Option ν :=
  (map.entries.find? fun entry => entry.1 = key).map Prod.snd

def insertEntry (key : κ) (value : ν) : List (κ × ν) → List (κ × ν)
  | [] => [(key, value)]
  | entry :: entries =>
    if entry.1 = key then (key, value) :: entries else entry :: insertEntry key value entries

theorem mem_keys_insertEntry {key other : κ} {value : ν} {entries : List (κ × ν)} :
    other ∈ (insertEntry key value entries).map Prod.fst ↔
      other = key ∨ other ∈ entries.map Prod.fst := by
  induction entries with
  | nil => simp [insertEntry]
  | cons entry entries ih =>
    by_cases same : entry.1 = key
    · simp [insertEntry, same]
    · simp only [insertEntry, same, if_false, List.map_cons, List.mem_cons, ih]
      exact or_left_comm

theorem nodup_insertEntry (key : κ) (value : ν) {entries : List (κ × ν)}
    (nodup : (entries.map Prod.fst).Nodup) :
    ((insertEntry key value entries).map Prod.fst).Nodup := by
  induction entries with
  | nil => simp [insertEntry]
  | cons entry entries ih =>
    have ⟨fresh, rest⟩ := List.nodup_cons.1 nodup
    by_cases same : entry.1 = key
    · simpa [insertEntry, same] using nodup
    · simp only [insertEntry, same, if_false, List.map_cons]
      refine List.nodup_cons.2 ⟨fun found => ?_, ih rest⟩
      exact (mem_keys_insertEntry.1 found).elim same fresh

def insert (map : OrderedMap κ ν) (key : κ) (value : ν) : OrderedMap κ ν :=
  ⟨insertEntry key value map.entries, nodup_insertEntry key value map.nodup⟩

def ofList (entries : List (κ × ν)) : OrderedMap κ ν :=
  entries.foldl (fun map entry => map.insert entry.1 entry.2) empty

def sameEntries [DecidableEq ν] (first second : OrderedMap κ ν) : Bool :=
  first.size == second.size &&
    first.entries.all fun entry => second.find? entry.1 == some entry.2

end OrderedMap

end RouteTemplate
