import RouteTemplate.Proofs.CommandLine.Settings

namespace RouteTemplate.CommandLine

namespace Command

def options? : Command → Option Options
  | compile _ _ options | routes _ _ options => some options
  | outline _ => none

def switches : String → List Switch
  | "compile" => [.tree, .param, .ignore, .noIgnore, .noParams]
  | "routes" => [.json, .name, .ignore, .noIgnore, .noParams]
  | "ast" => [.tree]
  | _ => []

def ofSettings (settings : Settings) : String → Option Command
  | "compile" => do
    return compile (← treeSource settings) (settings.values .param) settings.options
  | "routes" => do
    let path ← settings.paths.head?
    return routes (Source.ofPath path) (← view? settings) settings.options
  | "ast" => do return outline (← treeSource settings)
  | _ => none

theorem read_eq (word : String) (arguments : List String) :
    read (word :: arguments) = (do
      let settings ← Settings.read (switches word) arguments
      ofSettings settings word) := by
  by_cases compile : word = "compile"
  · subst compile
    rfl
  by_cases routes : word = "routes"
  · subst routes
    rfl
  by_cases outline : word = "ast"
  · subst outline
    rfl
  -- No other word is a command, and then it does not matter what the arguments spell.
  have none (settings : Settings) : ofSettings settings word = none := by
    rw [ofSettings] <;> assumption
  simp only [none]
  rw [read]
  · cases Settings.read (switches word) arguments <;> rfl
  · exact fun _ same => compile (List.cons.inj same).1
  · exact fun _ same => routes (List.cons.inj same).1
  · exact fun _ same => outline (List.cons.inj same).1

theorem treeSource_plain (settings : Settings) :
    treeSource settings.plain = treeSource settings := by
  rw [treeSource, treeSource, Settings.value?, Settings.value?, settings.paths_plain,
    settings.values_plain .tree rfl]

theorem view?_plain (settings : Settings) : view? settings.plain = view? settings := by
  rw [view?, view?, Settings.value?, Settings.value?, settings.has_plain .json rfl,
    settings.values_plain .name rfl]

theorem exists_ofSettings_plain (settings : Settings) (word : String) :
    (∃ command, ofSettings settings.plain word = some command) ↔
      ∃ command, ofSettings settings word = some command := by
  simp only [← Option.isSome_iff_exists]
  fun_cases ofSettings settings word with
  | case1 =>
    rw [ofSettings, treeSource_plain]
    cases treeSource settings <;> rfl
  | case2 =>
    rw [ofSettings, settings.paths_plain, view?_plain]
    cases settings.paths.head? <;> cases view? settings <;> rfl
  | case3 =>
    rw [ofSettings, treeSource_plain]
  | case4 word noCompile noRoutes noOutline =>
    rw [ofSettings] <;> assumption

theorem options?_ofSettings (settings : Settings) (word : String) (command : Command)
    (options : Options) (made : ofSettings settings word = some command)
    (given : command.options? = some options) : options = settings.options := by
  revert made
  fun_cases ofSettings settings word with
  | case1 =>
    intro made
    rcases Option.bind_eq_some_iff.mp made with ⟨source, _, same⟩
    cases same
    exact (Option.some.inj given).symm
  | case2 =>
    intro made
    rcases Option.bind_eq_some_iff.mp made with ⟨path, _, made⟩
    rcases Option.bind_eq_some_iff.mp made with ⟨view, _, same⟩
    cases same
    exact (Option.some.inj given).symm
  | case3 =>
    intro made
    rcases Option.bind_eq_some_iff.mp made with ⟨source, _, same⟩
    cases same
    cases given
  | case4 => exact nofun

theorem read_eq_some (word : String) (arguments : List String) (command : Command) :
    read (word :: arguments) = some command ↔
      ∃ settings, Spells (switches word) arguments settings ∧ settings.areValid = true ∧
        ofSettings settings word = some command := by
  rw [read_eq, Option.bind_eq_bind, Option.bind_eq_some_iff]
  simp only [Settings.read_eq_some, and_assoc]

/-- The flags decide on the options of a command, whatever else is given and wherever they stand. -/
theorem read_asksFor (arguments : List String) (command : Command) (options : Options)
    (accepted : read arguments = some command) (given : command.options? = some options) :
    ∃ word others settings, arguments = word :: others ∧
      Spells (switches word) others settings ∧ settings.AsksFor options := by
  cases arguments with
  | nil => cases accepted
  | cons word others =>
    rcases (read_eq_some word others command).mp accepted with ⟨settings, spells, _, made⟩
    refine ⟨word, others, settings, rfl, spells, ?_⟩
    rw [options?_ofSettings settings word command options made given]
    exact settings.asksFor_options (fits_of_spells _ _ _ spells)

theorem exists_read (word : String) (arguments : List String) (settings : Settings)
    (spells : Spells (switches word) arguments settings) :
    (∃ command, read (word :: arguments) = some command) ↔
      settings.areValid = true ∧ ∃ command, ofSettings settings word = some command := by
  simp only [read_eq_some]
  constructor
  · intro accepted
    rcases accepted with ⟨command, other, again, valid, made⟩
    rw [spells_unique _ _ _ _ spells again]
    exact ⟨valid, command, made⟩
  · intro found
    rcases found with ⟨valid, command, made⟩
    exact ⟨command, settings, spells, valid, made⟩

/-- Flags can be added anywhere to a command line, as often as each of them may be given. -/
theorem read_flagged (word : String) (arguments plain : List String) (settings : Settings)
    (spells : Spells (switches word) arguments settings)
    (without : Spells (switches word) plain settings.plain)
    (accepted : ∃ command, read (word :: plain) = some command) :
    (∃ command, read (word :: arguments) = some command) ↔
      settings.count (.flag .noIgnore) ≤ 1 ∧ settings.count (.flag .noParams) ≤ 1 := by
  rcases (exists_read word plain settings.plain without).mp accepted with ⟨valid, made⟩
  rw [exists_ofSettings_plain] at made
  rw [exists_read word arguments settings spells,
    settings.areValid_plain (fits_of_spells _ _ _ spells), and_iff_left made, and_iff_right valid]

end Command

/-- Options in whatever way they are made. A run of steps from the default options goes through if
its texts can be read. It leaves the names of the last step that replaced them and those added
since, each once, and the flag of the last step that set it, unless queries were turned off since;
and these options come back from their text. A command line asks for the default names, if they are
not turned off, and for all names it gives, whatever the order of its flags. With flags added
anywhere it is still a command line, unless `--no-ignore` or `--no-params` is then given twice. -/
theorem options_follow_steps_and_flags :
    (∀ steps : List Options.Step,
      ((∃ options, Options.runAll .default steps = .ok options) ↔
        ∀ text, .read text ∈ steps → Options.Readable text) ∧
      ∀ options, Options.runAll .default steps = .ok options →
        options.Follows (.new :: steps) ∧ options.ignored.toList.Nodup ∧
        (∀ name, options.isIgnored name = true ↔ name ∈ options.ignored.toList) ∧
        Options.read options.toJson.compact = .ok options) ∧
    (∀ arguments command options, Command.read arguments = some command →
      command.options? = some options → ∃ word others settings, arguments = word :: others ∧
        Spells (Command.switches word) others settings ∧ settings.AsksFor options) ∧
    ∀ word arguments plain settings, Spells (Command.switches word) arguments settings →
      Spells (Command.switches word) plain settings.plain →
      (∃ command, Command.read (word :: plain) = some command) →
      ((∃ command, Command.read (word :: arguments) = some command) ↔
        settings.count (.flag .noIgnore) ≤ 1 ∧ settings.count (.flag .noParams) ≤ 1) := by
  refine ⟨?_, Command.read_asksFor, Command.read_flagged⟩
  intro steps
  refine ⟨Options.exists_runAll steps .default, ?_⟩
  intro options ran
  have follows := Options.follows_runAll steps [.new] .default options ran Options.follows_default
  exact ⟨follows, options.ignored.nodup, options.isIgnored_iff, options.read_toJson⟩

/-- A text that gives no flag, and flags on both sides of a path. -/
theorem options_follow_steps_and_flags_mixed :
    ∃ (text : String) (options : Options) (settings : Settings),
      Options.runAll .default [.withoutParams, .read text, .ignore "z"] = .ok options ∧
      options.Follows [.new, .withoutParams, .read text, .ignore "z"] ∧
      Spells (Command.switches "routes") ["--ignore=b", "r.json", "--no-ignore"] settings ∧
      settings.AsksFor ⟨Names.ofList ["b"], true⟩ ∧
      ∃ command, Command.read ["routes", "--ignore=b", "r.json", "--no-ignore"] = some command := by
  let value : Json.Value := .object [("ignore", .list [.text "x", .text "y", .text "x"])]
  have readable : Options.Readable value.compact := by
    refine ⟨_, some ["x", "y", "x"], none, value.compact_spells.padded, ?_, ?_, ?_⟩
    · exact Json.Value.object_isRecord _ _ (by simp)
    · rw [Json.Value.object_part?]
      rfl
    · rw [Json.Value.object_part?]
      rfl
  have spelled : Spells (Command.switches "routes") ["--ignore=b", "r.json", "--no-ignore"]
      [.value .ignore "b", .path "r.json", .flag .noIgnore] :=
    Setting.spells_of_readAll _ _ _ (by decide)
  have plain : Spells (Command.switches "routes") ["r.json"] [.path "r.json"] :=
    .setting (.path (by decide)) .done
  rcases options_follow_steps_and_flags with ⟨runs, asks, flagged⟩
  rcases runs [.withoutParams, .read value.compact, .ignore "z"] with ⟨accepted, follow⟩
  rcases accepted.mpr (by simpa using readable) with ⟨options, ran⟩
  have command : Command.read ["routes", "--ignore=b", "r.json", "--no-ignore"] =
      some (.routes (.file "r.json") .listing ⟨Names.ofList ["b"], true⟩) := by decide
  rcases asks _ _ _ command rfl with ⟨_, _, settings, same, spells, asksFor⟩
  cases same
  have first : ∃ command, Command.read ["routes", "r.json"] = some command :=
    ⟨.routes (.file "r.json") .listing .default, by decide⟩
  exact ⟨value.compact, options, settings, ran, (follow options ran).1, spells, asksFor,
    (flagged "routes" _ _ _ spelled plain first).mpr (by decide)⟩

example : (Command.read ["compile", "--ignore", "format", "--no-ignore"] >>= Command.options?) =
    some ⟨Names.ofList ["format"], true⟩ := by decide

end RouteTemplate.CommandLine
