import RouteTemplate.Proofs.CommandLine.Input
import RouteTemplate.Proofs.CommandLine.Views
import RouteTemplate.Proofs.Manifest.RoundTrip
import RouteTemplate.Proofs.Pattern.Outline
import RouteTemplate.Proofs.Pattern.Decoding

/-!
A run of the program in stages. It takes its input, looks whether there is anything in it, reads it,
looks up the name that is asked for, and compiles. The first stage that fails ends the run with its
message and nothing else; where none fails, all of the result is printed
(`run_prints_all_or_nothing`).
-/

namespace RouteTemplate.CommandLine

open Manifest (IsLast own namedRoutes)

section Views

variable (options : Options) (manifest : Manifest)

/-- Whether the view shows all that it is to show of the manifest. -/
def Shows (output : String) : View → Prop
  | .listing => ∃ entries, Lists options manifest entries ∧ output = listingText entries
  | .json => ∃ rows, Tabulates options manifest rows ∧ output = Json.prettyObject rows ++ "\n"
  | .named name => ∃ route template, IsLast manifest.routes name route ∧
    manifest.own options route = .ok template ∧ output = template.text ++ "\n"

/-- Whether the error is that of the first route that fails among those the view needs. -/
def Stops (error : CompileError) : View → Prop
  | .listing => FirstFailure (manifest.own options) manifest.routes error
  | .json => FirstFailure (manifest.own options) (namedRoutes manifest.routes) error
  | .named name => ∃ route, IsLast manifest.routes name route ∧
    manifest.own options route = .error error

theorem showManifest_shows (view : View) (output : String)
    (shown : showManifest options manifest view = .ok output) :
    Shows options manifest output view := by
  cases view with
  | listing => exact showManifest_listing options manifest output shown
  | json => exact showManifest_json options manifest output shown
  | named name => exact (showManifest_named options manifest name output).mp shown

theorem shows_unique (view : View) (output other : String)
    (shows : Shows options manifest output view) (again : Shows options manifest other view) :
    output = other := by
  cases view with
  | listing =>
    rcases shows with ⟨entries, lists, rfl⟩
    rcases again with ⟨others, listsAgain, rfl⟩
    rw [lists_unique options manifest entries others lists listsAgain]
  | json =>
    rcases shows with ⟨rows, tabulates, rfl⟩
    rcases again with ⟨others, tabulatesAgain, rfl⟩
    rw [tabulates_unique options manifest rows others tabulates tabulatesAgain]
  | named name =>
    rcases shows with ⟨route, template, last, own, rfl⟩
    rcases again with ⟨_, _, lastAgain, ownAgain, rfl⟩
    cases last_unique manifest name route _ last lastAgain
    cases own.symm.trans ownAgain
    rfl

theorem showManifest_unknown (view : View) (name : String) :
    showManifest options manifest view = .error (.unknownRoute name) ↔
      view = .named name ∧ ∀ route ∈ manifest.routes, route.name ≠ some name := by
  cases view with
  | listing => simp [showManifest_listing_error]
  | json => simp [showManifest_json_error]
  | named other =>
    refine (bind_pure_eq_error _ _ _).trans ?_
    rw [Manifest.templateFor_eq_unknownRoute, View.named.injEq]
    exact and_congr_right fun same => by rw [same]

theorem showManifest_stops (view : View) (error : CompileError) :
    showManifest options manifest view = .error (.compile error) ↔
      Stops options manifest error view := by
  cases view with
  | listing => simp [showManifest_listing_error, Stops]
  | json => simp [showManifest_json_error, Stops]
  | named name =>
    refine (bind_pure_eq_error _ _ _).trans ?_
    simp only [Stops, ← Manifest.route?_eq_some, Manifest.templateFor_outcome]
    cases manifest.route? name with
    | none => simp
    | some route => simp [mapError_eq_error]

end Views

def queryText (names : List String) : String :=
  if names = [] then "" else "\x7b?" ++ ",".intercalate names ++ "\x7d"

theorem withQuery_eq (path : String) (names : List String) :
    withQuery path names = path ++ queryText names := by
  cases names with
  | nil => exact String.append_empty.symm
  | cons name names => simp [withQuery, queryText, String.append_assoc]

theorem compileTree_eq (params : List String) (options : Options) (pattern : Pattern) :
    compileTree params options pattern = (do
      let path ← pattern.compilePath options.ignored
      return path ++ queryText (if options.params then params.eraseDups else []) ++ "\n") := by
  have names : (Registry.empty.register commandAction params).namesFor? commandAction =
      some params.eraseDups := by
    rw [Registry.namesFor?, Registry.register, OrderedMap.find?_insert, if_pos rfl,
      Option.map_some, Names.ofList_toList]
  have complete : commandAction.isComplete = true := by decide
  rw [compileTree, Compiler.compile_outcome]
  simp only [Compiler.found, names, complete, Bool.and_true, Option.getD_some, bind_assoc,
    ← withQuery_eq]
  rfl

theorem compileTree_eq_error (params : List String) (options : Options) (pattern : Pattern)
    (error : CompileError) :
    compileTree params options pattern = .error error ↔
      pattern.compilePath options.ignored = .error error := by
  rw [compileTree_eq]
  exact bind_pure_eq_error _ _ _

namespace Command

def subject : Command → Subject
  | routes .. => .manifest
  | compile .. | outline .. => .tree

def process (text : String) : Command → Except Failure String
  | compile _ params options => do
    let pattern ← (Pattern.read text).mapError (.json .tree text)
    (compileTree params options pattern).mapError fun error => .manifest (.compile error)
  | routes _ view options => do
    let manifest ← (Manifest.read text).mapError (.json .manifest text)
    (showManifest options manifest view).mapError .manifest
  | outline _ => do
    let pattern ← (Pattern.read text).mapError (.json .tree text)
    return outlineTree pattern

theorem run_eq (world : World) (command : Command) :
    command.run world = (do
      let text ← (world.load command.subject command.source?).mapError .input
      command.process text) := by
  cases command <;> rfl

/-- Whether the output is all that the command is to make of the text. -/
def Renders (text output : String) : Command → Prop
  | compile _ params options => ∃ pattern path, Pattern.read text = .ok pattern ∧
    pattern.compilePath options.ignored = .ok path ∧
    output = path ++ queryText (if options.params then params.eraseDups else []) ++ "\n"
  | routes _ view options => ∃ manifest, Manifest.read text = .ok manifest ∧
    Shows options manifest output view
  | outline _ => ∃ pattern, Pattern.read text = .ok pattern ∧
    output = String.join (pattern.spots.map fun spot => spot.line ++ "\n") ++ "\npattern: " ++
      String.ofList pattern.letters ++ "\n"

def Malformed (text : String) (error : Json.ReadError) : Command → Prop
  | routes .. => Manifest.read text = .error error
  | compile .. | outline .. => Pattern.read text = .error error

def Unknown (text name : String) : Command → Prop
  | routes _ view _ => ∃ manifest, Manifest.read text = .ok manifest ∧ view = .named name ∧
    ∀ route ∈ manifest.routes, route.name ≠ some name
  | compile .. | outline .. => False

def Uncompiled (text : String) (error : CompileError) : Command → Prop
  | compile _ _ options => ∃ pattern, Pattern.read text = .ok pattern ∧
    pattern.compilePath options.ignored = .error error
  | routes _ view options => ∃ manifest, Manifest.read text = .ok manifest ∧
    Stops options manifest error view
  | outline _ => False

section Process

variable {α : Type} (subject : Subject) (text : String) (read : Except Json.ReadError α)
  (next : α → Except Failure String)

theorem read_then_eq_ok (output : String) :
    (read.mapError (Failure.json subject text) >>= next) = .ok output ↔
      ∃ value, read = .ok value ∧ next value = .ok output := by
  simp only [bind_eq_ok, mapError_eq_ok]

theorem read_then_eq_error (failure : Failure) :
    (read.mapError (Failure.json subject text) >>= next) = .error failure ↔
      (∃ error, read = .error error ∧ .json subject text error = failure) ∨
        ∃ value, read = .ok value ∧ next value = .error failure := by
  simp only [bind_eq_error, mapError_eq_ok, mapError_eq_error]

end Process

variable (text : String) (command : Command)

theorem renders_unique (output other : String) (renders : command.Renders text output)
    (again : command.Renders text other) : output = other := by
  cases command with
  | compile source params options =>
    rcases renders with ⟨pattern, path, read, compiled, rfl⟩
    rcases again with ⟨_, _, readAgain, compiledAgain, rfl⟩
    cases read.symm.trans readAgain
    cases compiled.symm.trans compiledAgain
    rfl
  | routes source view options =>
    rcases renders with ⟨manifest, read, shows⟩
    rcases again with ⟨_, readAgain, showsAgain⟩
    cases read.symm.trans readAgain
    exact shows_unique options manifest view output other shows showsAgain
  | outline source =>
    rcases renders with ⟨pattern, read, rfl⟩
    rcases again with ⟨_, readAgain, rfl⟩
    cases read.symm.trans readAgain
    rfl

theorem process_renders (output : String) (done : command.process text = .ok output) :
    command.Renders text output := by
  cases command with
  | compile source params options =>
    rcases (read_then_eq_ok _ _ _ _ _).mp done with ⟨pattern, read, compiled⟩
    rw [mapError_eq_ok, compileTree_eq, bind_pure_eq_ok] at compiled
    rcases compiled with ⟨path, compiled, same⟩
    exact ⟨pattern, path, read, compiled, same⟩
  | routes source view options =>
    rcases (read_then_eq_ok _ _ _ _ _).mp done with ⟨manifest, read, shown⟩
    rw [mapError_eq_ok] at shown
    exact ⟨manifest, read, showManifest_shows options manifest view output shown⟩
  | outline source =>
    rcases (read_then_eq_ok _ _ _ _ _).mp done with ⟨pattern, read, same⟩
    refine ⟨pattern, read, ?_⟩
    rw [← Except.ok.inj same, outlineTree, Pattern.outline_lines, ← Pattern.text_letters,
      String.ofList_toList]

inductive Fails : Failure → Prop
  | json {error : Json.ReadError} (malformed : command.Malformed text error) :
    Fails (.json command.subject text error)
  | name {name : String} (unknown : command.Unknown text name) :
    Fails (.manifest (.unknownRoute name))
  | compile {error : CompileError} (uncompiled : command.Uncompiled text error) :
    Fails (.manifest (.compile error))

theorem fails_of_process (failure : Failure) (failed : command.process text = .error failure) :
    command.Fails text failure := by
  cases command with
  | compile source params options =>
    rcases (read_then_eq_error _ _ _ _ _).mp failed with
      ⟨error, read, rfl⟩ | ⟨pattern, read, refused⟩
    · exact .json read
    · rcases (mapError_eq_error _ _ _).mp refused with ⟨error, stopped, rfl⟩
      exact .compile ⟨pattern, read, (compileTree_eq_error _ _ _ _).mp stopped⟩
  | routes source view options =>
    rcases (read_then_eq_error _ _ _ _ _).mp failed with
      ⟨error, read, rfl⟩ | ⟨manifest, read, refused⟩
    · exact .json read
    · rcases (mapError_eq_error _ _ _).mp refused with ⟨error, stopped, rfl⟩
      cases error with
      | unknownRoute name =>
        exact .name ⟨manifest, read, (showManifest_unknown _ _ _ _).mp stopped⟩
      | compile error =>
        exact .compile ⟨manifest, read, (showManifest_stops _ _ _ _).mp stopped⟩
  | outline source =>
    rcases (read_then_eq_error _ _ _ _ _).mp failed with ⟨error, read, rfl⟩ | ⟨pattern, _, refused⟩
    · exact .json read
    · cases refused

theorem process_of_fails (failure : Failure) (fails : command.Fails text failure) :
    command.process text = .error failure := by
  cases command with
  | compile source params options =>
    apply (read_then_eq_error _ _ _ _ _).mpr
    cases fails with
    | json malformed => exact Or.inl ⟨_, malformed, rfl⟩
    | name unknown => exact unknown.elim
    | compile uncompiled =>
      rcases uncompiled with ⟨pattern, read, refused⟩
      have failed := (compileTree_eq_error params options pattern _).mpr refused
      exact Or.inr ⟨pattern, read, (mapError_eq_error _ _ _).mpr ⟨_, failed, rfl⟩⟩
  | routes source view options =>
    apply (read_then_eq_error _ _ _ _ _).mpr
    cases fails with
    | json malformed => exact Or.inl ⟨_, malformed, rfl⟩
    | name unknown =>
      rcases unknown with ⟨manifest, read, missing⟩
      have failed := (showManifest_unknown options manifest view _).mpr missing
      exact Or.inr ⟨manifest, read, (mapError_eq_error _ _ _).mpr ⟨_, failed, rfl⟩⟩
    | compile uncompiled =>
      rcases uncompiled with ⟨manifest, read, stops⟩
      have failed := (showManifest_stops options manifest view _).mpr stops
      exact Or.inr ⟨manifest, read, (mapError_eq_error _ _ _).mpr ⟨_, failed, rfl⟩⟩
  | outline source =>
    apply (read_then_eq_error _ _ _ _ _).mpr
    cases fails with
    | json malformed => exact Or.inl ⟨_, malformed, rfl⟩
    | name unknown => exact unknown.elim
    | compile uncompiled => exact uncompiled.elim

end Command

inductive Stage where
  | input
  | blank
  | json
  | name
  | compile
  deriving DecidableEq, Repr

def Stage.rank : Stage → Nat
  | input => 0
  | blank => 1
  | json => 2
  | name => 3
  | compile => 4

def Failure.stage : Failure → Stage
  | input (.blank _) => .blank
  | input _ => .input
  | json .. => .json
  | manifest (.unknownRoute _) => .name
  | manifest (.compile _) => .compile

variable (wording : Wording) (world : World) (command : Command)

/-- Whether the stage has a reason to fail, taken by itself: a blank text is malformed too. -/
inductive FailsAt : Stage → String → Prop
  | input {message : String} (refuses : Refuses world command.subject command.source? message) :
    FailsAt .input message
  | blank {text : String} (given : Gives world command.source? text)
    (blank : ∀ c ∈ text.toList, Text.isBlank c = true) :
    FailsAt .blank (command.subject.text ++ " cannot be empty")
  | json {text : String} {error : Json.ReadError} (given : Gives world command.source? text)
    (malformed : command.Malformed text error) :
    FailsAt .json ("invalid JSON: " ++ wording.malformed command.subject text error)
  | name {text name : String} (given : Gives world command.source? text)
    (unknown : command.Unknown text name) :
    FailsAt .name ("no named route for `" ++ name ++ "`")
  | compile {text : String} {inner : Pattern} (given : Gives world command.source? text)
    (uncompiled : command.Uncompiled text (.nestedGroups inner)) :
    FailsAt .compile ("nested groups not permitted: `" ++ String.ofList inner.letters ++ "`")

variable {wording world command}

theorem gives_unique {source : Option Source} {text other : String}
    (given : Gives world source text) (again : Gives world source other) : text = other := by
  have loaded := (text_eq_ok world .tree source text).mpr given
  rw [(text_eq_ok world .tree source other).mpr again] at loaded
  exact (Except.ok.inj loaded).symm

theorem not_refuses {source : Option Source} {subject : Subject} {text message : String}
    (given : Gives world source text) : ¬ Refuses world subject source message := by
  intro refuses
  rcases (text_eq_error world subject source message).mpr refuses with ⟨error, failed, _⟩
  cases failed.symm.trans ((text_eq_ok world subject source text).mpr given)

theorem nestedGroups_message (inner : Pattern) : (CompileError.nestedGroups inner).message =
    "nested groups not permitted: `" ++ String.ofList inner.letters ++ "`" := by
  have written : String.ofList inner.letters = inner.text := by
    rw [← Pattern.text_letters, String.ofList_toList]
  rw [written]
  rfl

theorem FailsAt.stage_of_gives {text message : String} {stage : Stage}
    (given : Gives world command.source? text) (visible : Text.allBlank text = false)
    (fails : FailsAt wording world command stage message) :
    ∃ failure, command.Fails text failure ∧ failure.stage = stage ∧
      wording.message failure = message := by
  cases fails with
  | input refuses => exact absurd refuses (not_refuses given)
  | blank again blank =>
    cases gives_unique given again
    exact absurd (List.all_eq_true.mpr blank) (ne_true_of_eq_false visible)
  | json again malformed =>
    cases gives_unique given again
    exact ⟨_, .json malformed, rfl, rfl⟩
  | name again unknown =>
    cases gives_unique given again
    exact ⟨_, .name unknown, rfl, rfl⟩
  | compile again uncompiled =>
    cases gives_unique given again
    exact ⟨_, .compile uncompiled, rfl, nestedGroups_message _⟩

theorem failsAt_of_fails {text : String} {failure : Failure}
    (given : Gives world command.source? text) (fails : command.Fails text failure) :
    FailsAt wording world command failure.stage (wording.message failure) := by
  cases fails with
  | json malformed => exact .json given malformed
  | name unknown => exact .name given unknown
  | @compile error uncompiled =>
    cases error with
    | nestedGroups inner =>
      have written := nestedGroups_message inner
      show FailsAt wording world command .compile (CompileError.message (.nestedGroups inner))
      rw [written]
      exact .compile given uncompiled

variable (wording world command)

/-- Whether the outcome is all of the result, or the message of the first stage that fails. -/
def Settles (outcome : Outcome) : Prop :=
  (∃ text output, Gives world command.source? text ∧ command.Renders text output ∧
    (∀ stage message, ¬ FailsAt wording world command stage message) ∧ outcome = ⟨0, output, ""⟩) ∨
  ∃ stage message, FailsAt wording world command stage message ∧
    (∀ earlier other, earlier.rank < stage.rank → ¬ FailsAt wording world command earlier other) ∧
    outcome = ⟨1, "", "error: " ++ message ++ "\n"⟩

theorem settles_input (error : InputError)
    (failed : world.text command.subject command.source? = .error error) :
    Settles wording world command (wording.outcome (command.run world)) := by
  have refuses := (text_eq_error world _ _ _).mp ⟨error, failed, rfl⟩
  refine Or.inr ⟨.input, error.message, .input refuses, ?_, ?_⟩
  · intro earlier other before
    exact absurd before (Nat.not_lt_zero _)
  · rw [command.run_eq, World.load, failed]
    rfl

theorem settles_blank (text : String) (given : Gives world command.source? text)
    (blank : Text.allBlank text = true) :
    Settles wording world command (wording.outcome (command.run world)) := by
  refine Or.inr ⟨.blank, _, .blank given (List.all_eq_true.mp blank), ?_, ?_⟩
  · intro earlier other before fails
    cases fails with
    | input refuses => exact not_refuses given refuses
    | _ => exact absurd before (by decide)
  · have loaded := (text_eq_ok world command.subject _ _).mpr given
    have refused :
        world.load command.subject command.source? = .error (.blank command.subject) := by
      rw [World.load, loaded]
      exact if_pos blank
    rw [command.run_eq, refused]
    rfl

theorem run_visible (text : String) (given : Gives world command.source? text)
    (visible : Text.allBlank text = false) : command.run world = command.process text := by
  have loaded := (text_eq_ok world command.subject _ _).mpr given
  have accepted : world.load command.subject command.source? = .ok text := by
    rw [World.load, loaded]
    exact if_neg (ne_true_of_eq_false visible)
  rw [command.run_eq, accepted]
  rfl

theorem settles_visible (text : String) (given : Gives world command.source? text)
    (visible : Text.allBlank text = false) :
    Settles wording world command (wording.outcome (command.run world)) := by
  rw [run_visible world command text given visible]
  cases made : command.process text with
  | ok output =>
    refine Or.inl ⟨text, output, given, command.process_renders text output made, ?_, rfl⟩
    intro stage message fails
    rcases fails.stage_of_gives given visible with ⟨failure, failed, _, _⟩
    cases made.symm.trans (command.process_of_fails text failure failed)
  | error failure =>
    have fails : FailsAt wording world command failure.stage (wording.message failure) :=
      failsAt_of_fails given (command.fails_of_process text failure made)
    refine Or.inr ⟨failure.stage, wording.message failure, fails, ?_, rfl⟩
    intro earlier other before failsEarlier
    rcases failsEarlier.stage_of_gives given visible with ⟨another, failed, own, _⟩
    -- A text fails in one way only, so an earlier stage would be the same one.
    cases made.symm.trans (command.process_of_fails text another failed)
    cases own
    exact Nat.lt_irrefl _ before

theorem run_settles : Settles wording world command (wording.outcome (command.run world)) := by
  cases loaded : world.text command.subject command.source? with
  | error error => exact settles_input wording world command error loaded
  | ok text =>
    have given := (text_eq_ok world _ _ _).mp loaded
    cases blank : Text.allBlank text with
    | true => exact settles_blank wording world command text given blank
    | false => exact settles_visible wording world command text given blank

variable {wording world command} in
theorem Settles.outcome_eq {outcome : Outcome} (settles : Settles wording world command outcome)
    (text : String) (given : Gives world command.source? text)
    (visible : Text.allBlank text = false) : outcome = wording.outcome (command.process text) := by
  rcases settles with ⟨other, output, again, renders, none, rfl⟩ | ⟨stage, message, fails, _, rfl⟩
  · cases gives_unique given again
    cases made : command.process text with
    | ok shown =>
      rw [command.renders_unique text shown output (command.process_renders text shown made)
        renders]
      rfl
    | error failure =>
      have failed := command.fails_of_process text failure made
      exact absurd (failsAt_of_fails given failed) (none failure.stage (wording.message failure))
  · rcases fails.stage_of_gives given visible with ⟨failure, failed, _, rfl⟩
    rw [command.process_of_fails text failure failed]
    rfl

theorem blank_unread (text : String) (blank : Text.allBlank text = true) :
    (∀ pattern, Pattern.read text ≠ .ok pattern) ∧
      ∀ manifest, Manifest.read text ≠ .ok manifest := by
  constructor
  · intro pattern read
    rcases (Pattern.read_eq_ok text pattern).mp read with ⟨datum, padded, _⟩
    exact Json.not_padded_of_blank text blank datum padded
  · intro manifest read
    rcases (Manifest.read_eq_ok text manifest).mp read with ⟨datum, padded, _⟩
    exact Json.not_padded_of_blank text blank datum padded

theorem visible_of_manifest (text : String) (manifest : Manifest)
    (read : Manifest.read text = .ok manifest) : Text.allBlank text = false := by
  cases blank : Text.allBlank text with
  | true => exact absurd read ((blank_unread text blank).2 manifest)
  | false => rfl

theorem run_stopped_listing (source : Source) (options : Options) (text : String)
    (manifest : Manifest) (given : Gives world (some source) text)
    (read : Manifest.read text = .ok manifest)
    (refused : ∃ route ∈ manifest.routes, ∃ error, manifest.own options route = .error error) :
    ∃ inner, FirstFailure (manifest.own options) manifest.routes (.nestedGroups inner) ∧
      (Command.routes source .listing options).run world =
        .error (.manifest (.compile (.nestedGroups inner))) := by
  have visible := visible_of_manifest text manifest read
  cases compiled : manifest.routes.mapM (manifest.own options) with
  | ok templates =>
    rcases refused with ⟨route, member, error, refused⟩
    rcases (exists_mapM _ _).mp ⟨templates, compiled⟩ route member with ⟨template, accepted⟩
    cases accepted.symm.trans refused
  | error failure =>
    have first := (mapM_eq_error _ _ _).mp compiled
    cases failure with
    | nestedGroups inner =>
      refine ⟨inner, first, ?_⟩
      rw [run_visible world (.routes source .listing options) text given visible]
      exact Command.process_of_fails text _ _ (.compile ⟨manifest, read, first⟩)

/-- A run of a command prints all of its result, or nothing but the message of the first stage that
fails. So a route that fails leaves no line of a listing, wherever it stands among the others. The
look for blank input refuses nothing that could be read. -/
theorem run_prints_all_or_nothing (arguments : List String)
    (accepted : Command.read arguments = some command) :
    Settles wording world command (wording.run world arguments) ∧
    (∀ source options text manifest, command = .routes source .listing options →
      Gives world (some source) text → Manifest.read text = .ok manifest →
      (∃ route ∈ manifest.routes, ∃ error, manifest.own options route = .error error) →
      ∃ inner, FirstFailure (manifest.own options) manifest.routes (.nestedGroups inner) ∧
        wording.run world arguments = ⟨1, "", "error: " ++
          ("nested groups not permitted: `" ++ String.ofList inner.letters ++ "`") ++ "\n"⟩) ∧
    ∀ text, (∀ c ∈ text.toList, Text.isBlank c = true) →
      (∀ pattern, Pattern.read text ≠ .ok pattern) ∧
        ∀ manifest, Manifest.read text ≠ .ok manifest := by
  have outcome : wording.run world arguments = wording.outcome (command.run world) := by
    rw [Wording.run, accepted]
  refine ⟨?_, ?_, ?_⟩
  · rw [outcome]
    exact run_settles wording world command
  · intro source options text manifest same given read refused
    subst same
    rcases run_stopped_listing world source options text manifest given read refused with
      ⟨inner, first, stopped⟩
    refine ⟨inner, first, ?_⟩
    have shown : wording.outcome (.error (.manifest (.compile (.nestedGroups inner)))) =
        ⟨1, "", "error: " ++ (CompileError.nestedGroups inner).message ++ "\n"⟩ := rfl
    rw [outcome, stopped, shown, nestedGroups_message]
  · intro text blank
    exact blank_unread text (List.all_eq_true.mpr blank)

def userRoute : Pattern := .cat .slash (.symbol ":id")

def twoRoutes : Manifest := .ofRoutes [⟨some "user", userRoute, {}⟩, ⟨none, .dot, {}⟩]

def brokenRoutes : Manifest :=
  .ofRoutes [⟨some "a", .slash, {}⟩, ⟨none, .group (.group .slash), {}⟩]

def twoFiles : World where
  input := .error .notFound
  file path := .ok (if path = "r.json" then twoRoutes else brokenRoutes).toJson.compact.toUTF8

/-- For texts that are refused at their first character. -/
def placed : Wording where
  misuse := Wording.bare.misuse
  malformed _ _ error := error.message ++ " at line 1 column 1"

/-- All that each command prints, a manifest the last route of which does not compile, and a text
that is no tree. -/
theorem run_prints_all_or_nothing_each :
    placed.run twoFiles ["compile", "-pq", "--param=page", "-p", "q", "--ast",
        "\x7b\"cat\":[\"slash\",\x7b\"symbol\":\":id\"\x7d]\x7d"] =
      ⟨0, "/\x7bid\x7d\x7b?q,page\x7d\n", ""⟩ ∧
    placed.run twoFiles ["ast", "--ast", "\x7b\"cat\":[\"slash\",\x7b\"symbol\":\":id\"\x7d]\x7d"] =
      ⟨0, "Cat\n  Slash\n  Symbol :id\n\npattern: /:id\n", ""⟩ ∧
    placed.run twoFiles ["routes", "r.json"] = ⟨0, "user\t/\x7bid\x7d\n.\n", ""⟩ ∧
    placed.run twoFiles ["routes", "--json", "r.json"] =
      ⟨0, "\x7b\n  \"user\": \"/\x7bid\x7d\"\n\x7d\n", ""⟩ ∧
    placed.run twoFiles ["routes", "r.json", "-n", "user"] = ⟨0, "/\x7bid\x7d\n", ""⟩ ∧
    placed.run twoFiles ["routes", "--no-ignore", "bad.json"] =
      ⟨1, "", "error: nested groups not permitted: `(/)`\n"⟩ ∧
    placed.run twoFiles ["ast", "--ast", "["] =
      ⟨1, "", "error: invalid JSON: expected value at line 1 column 1\n"⟩ := by
  have settled (arguments : List String) (command : Command) (text : String)
      (made : Except Failure String) (spelled : Command.read arguments = some command)
      (given : Gives twoFiles command.source? text) (visible : Text.allBlank text = false)
      (processed : command.process text = made) :
      placed.run twoFiles arguments = placed.outcome made := by
    rcases run_prints_all_or_nothing placed twoFiles command arguments spelled with ⟨settles, _⟩
    rw [settles.outcome_eq text given visible, processed]
  have tree := Pattern.read_compact userRoute
  have written : userRoute.toJson.compact =
      "\x7b\"cat\":[\"slash\",\x7b\"symbol\":\":id\"\x7d]\x7d" := by decide
  rw [written] at tree
  have two :=
    (Manifest.read_compact_same twoRoutes).mpr fun _ member => absurd member List.not_mem_nil
  have broken :=
    (Manifest.read_compact_same brokenRoutes).mpr fun _ member => absurd member List.not_mem_nil
  have noTree : Pattern.read "[" = .error (.malformed .valueExpected) := by decide +kernel
  have listed (view : View) (output : String)
      (shown : showManifest .default twoRoutes view = .ok output) :
      (Command.routes (.file "r.json") view .default).process twoRoutes.toJson.compact =
        .ok output :=
    (Command.read_then_eq_ok _ _ _ _ _).mpr ⟨twoRoutes, two, (mapError_eq_ok _ _ _).mpr shown⟩
  have visible := visible_of_manifest _ _ two
  refine ⟨?_, ?_, ?_, ?_, ?_, ?_, ?_⟩
  · exact settled _ (.compile (some (.inline _)) ["q", "page", "q"] .default) _ _ (by decide)
      (.inline _) (by decide) ((Command.read_then_eq_ok _ _ _ _ _).mpr ⟨userRoute, tree, rfl⟩)
  · exact settled _ (.outline (some (.inline _))) _ _ (by decide) (.inline _) (by decide)
      ((Command.read_then_eq_ok _ _ _ _ _).mpr ⟨userRoute, tree, rfl⟩)
  · exact settled _ _ _ _ (by decide) (.file rfl) visible (listed .listing _ (by decide))
  · exact settled _ _ _ _ (by decide) (.file rfl) visible (listed .json _ (by decide))
  · exact settled _ _ _ _ (by decide) (.file rfl) visible (listed (.named "user") _ (by decide))
  · exact settled _ (.routes (.file "bad.json") .listing (Options.default.withIgnored [])) _ _
      (by decide) (.file rfl) (visible_of_manifest _ _ broken)
      ((Command.read_then_eq_error _ _ _ _ _).mpr (Or.inr ⟨brokenRoutes, broken, rfl⟩))
  · exact settled _ (.outline (some (.inline _))) _ _ (by decide) (.inline "[") (by decide)
      ((Command.read_then_eq_error _ _ _ _ _).mpr (Or.inl ⟨_, noTree, rfl⟩))

end RouteTemplate.CommandLine
