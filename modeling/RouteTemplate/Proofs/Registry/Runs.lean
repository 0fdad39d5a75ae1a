import Mathlib.Data.Finset.Card
import RouteTemplate.Proofs.Json.Writing
import RouteTemplate.Proofs.Registry.Decoding

/-!
Registries over runs of any length. Each step feeds entries to the registry, and the log of a run is
all that it has been fed since it last started over. The registry is what the log makes of it: a
step keeps that (`run_ofList`), and so does a whole run (`runAll_ofList`).
-/

namespace RouteTemplate.Registry

open Json

inductive Step where
  | register (action : Action) (names : List String)
  | registerController (controller : String) (entries : List (String × List String))
  | extend (other : Registry)
  /-- Starts over from a map, whose lists may repeat names. -/
  | ofMap (map : OrderedMap Action (List String))
  /-- Starts over from a JSON text, whose members may repeat keys. -/
  | read (text : String)

namespace Step

def run (registry : Registry) : Step → Except ReadError Registry
  | register action names => .ok (registry.register action names)
  | registerController controller entries => .ok (registry.registerController controller entries)
  | extend other => .ok (registry.extend other)
  | ofMap map => .ok (Registry.ofMap map)
  | read text => Registry.read text

def startsOver : Step → Bool
  | ofMap _ | read _ => true
  | register _ _ | registerController _ _ | extend _ => false

/-- The entries that a step feeds to the registry, in order. A text that is not read feeds none. -/
inductive Feeds : Step → List (Action × List String) → Prop where
  | register (action : Action) (names : List String) :
    Feeds (.register action names) [(action, names)]
  | registerController (controller : String) (entries : List (String × List String)) :
    Feeds (.registerController controller entries)
      (entries.map fun (name, names) => (⟨controller, name⟩, names))
  | extend (other : Registry) : Feeds (.extend other) other.toList
  | ofMap (map : OrderedMap Action (List String)) : Feeds (.ofMap map) map.entries
  | read {text : String} {members : List (List Nat × Datum)} {entries : List (Action × List String)}
    (written : Padded (.object members) text.toList) (listed : Lists members entries) :
    Feeds (.read text) entries

end Step

def runAll (registry : Registry) : List Step → Except ReadError Registry
  | [] => .ok registry
  | step :: steps => do runAll (← step.run registry) steps

inductive Logs : List (Action × List String) → List Step → List (Action × List String) → Prop where
  | done (log : List (Action × List String)) : Logs log [] log
  | step {log entries last : List (Action × List String)} {step : Step} {steps : List Step}
    (fed : step.Feeds entries)
    (later : Logs ((if step.startsOver then [] else log) ++ entries) steps last) :
    Logs log (step :: steps) last

/-- What the log says of the registry. -/
structure Follows (registry : Registry) (log : List (Action × List String)) : Prop where
  names : ∀ action, registry.namesFor? action = (lastValue? log action).map List.eraseDups
  distinct : ∀ entry ∈ registry.toList, entry.2.Nodup
  order : registry.toList.map Prod.fst = (log.map Prod.fst).eraseDups
  once : (registry.toList.map Prod.fst).Nodup
  size : registry.size = (log.map Prod.fst).toFinset.card

theorem follows_ofList (log : List (Action × List String)) : (ofList log).Follows log := by
  have order : (ofList log).toList.map Prod.fst = (log.map Prod.fst).eraseDups := by
    rw [toList_keys, keys_ofList]
  have once : ((log.map Prod.fst).eraseDups).Nodup := by
    rw [← keys_ofList]
    exact (ofList log).nodup
  refine ⟨namesFor?_ofList log, ?_, order, order ▸ once, ?_⟩
  · intro entry member
    obtain ⟨stored, _, rfl⟩ := List.mem_map.mp member
    exact stored.2.nodup
  · have same : (log.map Prod.fst).toFinset = (log.map Prod.fst).eraseDups.toFinset := by
      ext action
      simp
    calc
      (ofList log).size = (ofList log).keys.length := (List.length_map _).symm
      _ = (log.map Prod.fst).eraseDups.length := by rw [keys_ofList]
      _ = (log.map Prod.fst).toFinset.card := by rw [same, List.toFinset_card_of_nodup once]

theorem run_fed (step : Step) (entries : List (Action × List String)) (fed : step.Feeds entries)
    (registry : Registry) :
    step.run registry =
      .ok ((if step.startsOver then empty else registry).registerAll entries) := by
  cases fed with
  | register action names => rfl
  | registerController controller entries => rfl
  | extend other => rfl
  | ofMap map => rfl
  | read written listed => exact (read_eq_ok _ _).mpr ⟨_, written, _, entries, rfl, listed, rfl⟩

theorem fed_of_run (step : Step) (registry next : Registry)
    (accepted : step.run registry = .ok next) : ∃ entries, step.Feeds entries := by
  cases step with
  | register action names => exact ⟨_, .register action names⟩
  | registerController controller entries => exact ⟨_, .registerController controller entries⟩
  | extend other => exact ⟨_, .extend other⟩
  | ofMap map => exact ⟨_, .ofMap map⟩
  | read text =>
    obtain ⟨_, written, _, entries, rfl, listed, _⟩ := (read_eq_ok text next).mp accepted
    exact ⟨entries, .read written listed⟩

theorem run_ofList (step : Step) (entries : List (Action × List String)) (fed : step.Feeds entries)
    (log : List (Action × List String)) :
    step.run (ofList log) = .ok (ofList ((if step.startsOver then [] else log) ++ entries)) := by
  rw [run_fed step entries fed, ofList_append]
  cases step.startsOver <;> rfl

theorem runAll_ofList (steps : List Step) (log last : List (Action × List String))
    (logs : Logs log steps last) : runAll (ofList log) steps = .ok (ofList last) := by
  induction logs with
  | done log => rfl
  | @step log entries last step steps fed _ ih =>
    rw [runAll, run_ofList step entries fed log]
    exact ih

theorem logs_of_runAll (steps : List Step) (log : List (Action × List String)) (last : Registry)
    (accepted : runAll (ofList log) steps = .ok last) : ∃ logged, Logs log steps logged := by
  induction steps generalizing log with
  | nil => exact ⟨log, .done log⟩
  | cons step steps ih =>
    obtain ⟨next, ran, rest⟩ := (bind_eq_ok _ _ _).mp accepted
    obtain ⟨entries, fed⟩ := fed_of_run step _ next ran
    rw [run_ofList step entries fed log] at ran
    cases ran
    obtain ⟨logged, later⟩ := ih _ rest
    exact ⟨logged, .step fed later⟩

def place? (registry : Registry) (action : Action) : Option Nat :=
  (registry.toList.map Prod.fst).idxOf? action

theorem namesFor?_untouched (registry : Registry) (entries : List (Action × List String))
    (action : Action) (other : action ∉ entries.map Prod.fst) :
    (registry.registerAll entries).namesFor? action = registry.namesFor? action := by
  rw [namesFor?_registerAll, (lastValue?_eq_none entries action).mpr other]
  rfl

theorem place?_untouched (registry : Registry) (entries : List (Action × List String))
    (action : Action) (other : action ∉ entries.map Prod.fst) :
    (registry.registerAll entries).place? action = registry.place? action := by
  have absent : action ∉ ((entries.map Prod.fst).removeAll registry.keys).eraseDups := by
    intro found
    exact other (List.mem_of_mem_filter (List.mem_eraseDups.mp found))
  have missing := List.idxOf?_eq_none_iff.mpr absent
  rw [List.idxOf?] at missing
  rw [place?, place?, toList_keys, toList_keys, keys_registerAll, List.eraseDups_append,
    OrderedMap.keys_eraseDups, List.idxOf?, List.findIdx?_append, missing]
  exact Option.or_none

/-- A run is accepted if all its texts are. Its registry then follows the log of all that it has
been fed since it last started over, and no step that goes on touches the actions that it is not
about, whether or not they are written alike. -/
theorem runAll_follows_log (steps : List Step) :
    ((∃ registry, runAll empty steps = .ok registry) ↔ ∃ log, Logs [] steps log) ∧
    (∀ log, Logs [] steps log → ∃ registry, runAll empty steps = .ok registry ∧
      registry.Follows log) ∧
    ∀ (registry : Registry) (step : Step) (entries : List (Action × List String)),
      step.Feeds entries → step.startsOver = false → ∃ next, step.run registry = .ok next ∧
        ∀ action ∉ entries.map Prod.fst, next.namesFor? action = registry.namesFor? action ∧
          next.place? action = registry.place? action := by
  have accepted (log : List (Action × List String)) (logs : Logs [] steps log) :
      runAll empty steps = .ok (ofList log) := runAll_ofList steps [] log logs
  refine ⟨⟨?_, ?_⟩, ?_, ?_⟩
  · intro found
    obtain ⟨registry, ran⟩ := found
    exact logs_of_runAll steps [] registry ran
  · intro found
    obtain ⟨log, logs⟩ := found
    exact ⟨ofList log, accepted log logs⟩
  · intro log logs
    exact ⟨ofList log, accepted log logs, follows_ofList log⟩
  · intro registry step entries fed goesOn
    refine ⟨registry.registerAll entries, ?_, ?_⟩
    · rw [run_fed step entries fed, goesOn]
      rfl
    · intro action other
      exact ⟨namesFor?_untouched registry entries action other,
        place?_untouched registry entries action other⟩

/-- A text that repeats a key, and then two actions that are written alike. -/
theorem runAll_follows_log_alike :
    ∃ (text : String) (registry next : Registry),
      runAll empty [.read text, .register ⟨"a#b", "c"⟩ ["x", "y", "x"]] = .ok registry ∧
      registry.Follows [(⟨"u", "i"⟩, ["p"]), (⟨"u", "i"⟩, ["q"]),
        (⟨"a#b", "c"⟩, ["x", "y", "x"])] ∧
      Step.run registry (.registerController "a" [("b#c", ["z"])]) = .ok next ∧
      next.namesFor? ⟨"a#b", "c"⟩ = registry.namesFor? ⟨"a#b", "c"⟩ := by
  let value : Value := .object [("u#i", .list [.text "p"]), ("u#i", .list [.text "q"])]
  have parsed : Action.parse "u#i" = .ok ⟨"u", "i"⟩ :=
    (Action.parse_eq_ok_iff _ _).mpr ⟨by decide, by decide⟩
  have written : Padded (.object [(units "u#i", .strings ["p"]), (units "u#i", .strings ["q"])])
      value.compact.toList := value.compact_spells.padded
  have logs : Logs [] [.read value.compact, .register ⟨"a#b", "c"⟩ ["x", "y", "x"]] _ :=
    .step (.read written (.cons parsed (.cons parsed .nil)))
      (.step (.register ⟨"a#b", "c"⟩ ["x", "y", "x"]) (.done _))
  obtain ⟨_, follows, untouched⟩ :=
    runAll_follows_log [.read value.compact, .register ⟨"a#b", "c"⟩ ["x", "y", "x"]]
  obtain ⟨registry, ran, log⟩ := follows _ logs
  obtain ⟨next, ranNext, same⟩ :=
    untouched registry _ _ (.registerController "a" [("b#c", ["z"])]) rfl
  exact ⟨value.compact, registry, next, ran, log, ranNext, (same ⟨"a#b", "c"⟩ (by decide)).1⟩

end RouteTemplate.Registry
