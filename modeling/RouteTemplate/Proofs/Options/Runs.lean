import RouteTemplate.Proofs.Options.Decoding

/-!
Options over runs of any length. Some steps replace the ignored names and others add to them, and
likewise for the flag, but not all steps do both: `withIgnored` leaves the flag alone. So a run is
described by two of its steps, the last that replaces the names and the last that sets the flag,
and by the steps behind each of them (`Follows`). A step keeps that description (`follows_run`),
and so does a whole run (`follows_runAll`).
-/

namespace RouteTemplate.Options

open Json

theorem isIgnored_iff (options : Options) (name : String) :
    options.isIgnored name = true ↔ name ∈ options.ignored.toList := by
  rw [isIgnored, Names.contains, List.contains_iff_mem]

theorem ignored_foldl (names : List String) (options : Options) :
    (names.foldl ignore options).ignored.toList =
      (options.ignored.toList ++ names).eraseDups := by
  induction names using List.reverseRecOn with
  | nil => rw [List.append_nil, eraseDups_of_nodup _ options.ignored.nodup, List.foldl_nil]
  | append_singleton earlier last ih =>
    rw [List.foldl_concat, ignore, Names.insert_eq_eraseDups, ih,
      eraseDups_eraseDups_append, List.append_assoc]

theorem params_foldl (names : List String) (options : Options) :
    (names.foldl ignore options).params = options.params := by
  induction names generalizing options with
  | nil => rfl
  | cons name names ih =>
    rw [List.foldl_cons, ih]
    rfl

inductive Step where
  | new
  | withIgnored (names : List String)
  | ignore (name : String)
  | withoutParams
  | read (text : String)

def Readable (text : String) : Prop :=
  ∃ datum names params, Padded datum text.toList ∧ Gives datum names params

namespace Step

def run (options : Options) : Step → Except ReadError Options
  | new => .ok default
  | withIgnored names => .ok (options.withIgnored names)
  | ignore name => .ok (options.ignore name)
  | withoutParams => .ok options.withoutParams
  | read text => Options.read text

inductive Replaces : Step → List String → Prop where
  | new : Replaces .new ["format"]
  | withIgnored (names : List String) : Replaces (.withIgnored names) names
  | read {text : String} {datum : Datum} {names : Option (List String)} {params : Option Bool}
    (written : Padded datum text.toList) (gives : Gives datum names params) :
    Replaces (.read text) (names.getD ["format"])

inductive Sets : Step → Bool → Prop where
  | new : Sets .new true
  | read {text : String} {datum : Datum} {names : Option (List String)} {params : Option Bool}
    (written : Padded datum text.toList) (gives : Gives datum names params) :
    Sets (.read text) (params.getD true)

def added : Step → List String
  | ignore name => [name]
  | new | withIgnored _ | withoutParams | read _ => []

end Step

def runAll (options : Options) : List Step → Except ReadError Options
  | [] => .ok options
  | step :: steps => do runAll (← step.run options) steps

/-- Whether the last of the steps that give a value gives this one, before the later steps. -/
structure Last {α : Type} (gives : Step → α → Prop) (steps : List Step) (value : α)
    (later : List Step) : Prop where
  given : ∃ earlier step, steps = earlier ++ step :: later ∧ gives step value
  silent : ∀ step ∈ later, ∀ other, ¬ gives step other

/-- What the steps that led to them say of the options. -/
structure Follows (options : Options) (steps : List Step) : Prop where
  ignored : ∃ names later, Last Step.Replaces steps names later ∧
    options.ignored.toList = (names ++ later.flatMap Step.added).eraseDups
  params : ∃ flag later, Last Step.Sets steps flag later ∧
    (options.params = false ↔ flag = false ∨ .withoutParams ∈ later)

section Last

variable {α : Type} {gives : Step → α → Prop} (steps : List Step) (step : Step)

theorem last_given (value : α) (given : gives step value) :
    Last gives (steps ++ [step]) value [] where
  given := ⟨steps, step, rfl, given⟩
  silent _ member := absurd member List.not_mem_nil

theorem last_silent (value : α) (later : List Step) (last : Last gives steps value later)
    (silent : ∀ other, ¬ gives step other) :
    Last gives (steps ++ [step]) value (later ++ [step]) := by
  constructor
  · rcases last.given with ⟨earlier, giver, rfl, given⟩
    refine ⟨earlier, giver, ?_, given⟩
    rw [List.append_assoc, List.cons_append]
  · intro other member
    rcases List.mem_append.mp member with before | here
    · exact last.silent other before
    · rw [List.mem_singleton.mp here]
      exact silent

end Last

section Run

variable (step : Step) (options next : Options) (ran : step.run options = .ok next)

include ran

theorem run_ignored :
    (∃ names, step.Replaces names ∧ next.ignored.toList = names.eraseDups) ∨
      (∀ names, ¬ step.Replaces names) ∧
        next.ignored.toList = (options.ignored.toList ++ step.added).eraseDups := by
  have kept : options.ignored.toList = (options.ignored.toList ++ []).eraseDups := by
    rw [List.append_nil, eraseDups_of_nodup _ options.ignored.nodup]
  cases step with
  | new =>
    cases ran
    exact Or.inl ⟨_, .new, rfl⟩
  | withIgnored names =>
    cases ran
    exact Or.inl ⟨names, .withIgnored names, Names.ofList_toList names⟩
  | ignore name =>
    cases ran
    exact Or.inr ⟨fun _ => nofun, Names.insert_eq_eraseDups options.ignored name⟩
  | withoutParams =>
    cases ran
    exact Or.inr ⟨fun _ => nofun, kept⟩
  | read text =>
    rcases (read_eq_ok text next).mp ran with ⟨datum, written, names, params, gives, rfl⟩
    exact Or.inl ⟨_, .read written gives, Names.ofList_toList _⟩

theorem run_params :
    step.Sets next.params ∨
      (∀ flag, ¬ step.Sets flag) ∧
        (next.params = false ↔ options.params = false ∨ step = .withoutParams) := by
  cases step with
  | new =>
    cases ran
    exact Or.inl .new
  | withIgnored names =>
    cases ran
    exact Or.inr ⟨fun _ => nofun, by simp [withIgnored]⟩
  | ignore name =>
    cases ran
    exact Or.inr ⟨fun _ => nofun, by simp [ignore]⟩
  | withoutParams =>
    cases ran
    exact Or.inr ⟨fun _ => nofun, by simp [withoutParams]⟩
  | read text =>
    rcases (read_eq_ok text next).mp ran with ⟨datum, written, names, params, gives, rfl⟩
    exact Or.inl (.read written gives)

theorem follows_run (done : List Step) (follows : options.Follows done) :
    next.Follows (done ++ [step]) := by
  constructor
  · rcases run_ignored step options next ran with ⟨names, replaces, same⟩ | ⟨silent, same⟩
    · refine ⟨names, [], last_given done step names replaces, ?_⟩
      rw [same, List.flatMap_nil, List.append_nil]
    · rcases follows.ignored with ⟨names, later, last, before⟩
      refine ⟨names, later ++ [step], last_silent done step names later last silent, ?_⟩
      rw [same, before, eraseDups_eraseDups_append, List.flatMap_append, List.flatMap_singleton,
        List.append_assoc]
  · rcases run_params step options next ran with sets | ⟨silent, same⟩
    · exact ⟨next.params, [], last_given done step next.params sets, by simp⟩
    · rcases follows.params with ⟨flag, later, last, before⟩
      refine ⟨flag, later ++ [step], last_silent done step flag later last silent, ?_⟩
      rw [same, before, List.mem_append, List.mem_singleton, or_assoc, eq_comm (a := step)]

end Run

theorem follows_runAll (steps done : List Step) (options last : Options)
    (ran : runAll options steps = .ok last) (follows : options.Follows done) :
    last.Follows (done ++ steps) := by
  -- For any steps that were done already, as each step moves on to those.
  induction steps generalizing done options with
  | nil =>
    cases ran
    rwa [List.append_nil]
  | cons step steps ih =>
    rcases (bind_eq_ok _ _ _).mp ran with ⟨next, here, rest⟩
    have later := ih (done ++ [step]) next rest (follows_run step options next here done follows)
    rwa [List.append_assoc] at later

/-- The default options are those of `new`, and so a run from them has a step that gives names. -/
theorem follows_default : default.Follows [.new] where
  ignored := ⟨_, [], last_given [] .new _ .new, rfl⟩
  params := ⟨_, [], last_given [] .new _ .new, by simp [default]⟩

theorem exists_read (text : String) : (∃ options, read text = .ok options) ↔ Readable text := by
  constructor
  · intro accepted
    rcases accepted with ⟨options, accepted⟩
    rcases (read_eq_ok text options).mp accepted with ⟨datum, written, names, params, gives, _⟩
    exact ⟨datum, names, params, written, gives⟩
  · intro readable
    rcases readable with ⟨datum, names, params, written, gives⟩
    exact ⟨_, (read_eq_ok text _).mpr ⟨datum, written, names, params, gives, rfl⟩⟩

theorem exists_runAll (steps : List Step) (options : Options) :
    (∃ last, runAll options steps = .ok last) ↔ ∀ text, .read text ∈ steps → Readable text := by
  have ran (step : Step) (options : Options) :
      (∃ next, step.run options = .ok next) ↔ ∀ text, step = .read text → Readable text := by
    cases step with
    | read text => simpa [Step.run] using exists_read text
    | _ => simp [Step.run]
  induction steps generalizing options with
  | nil => simp [runAll]
  | cons step steps ih =>
    constructor
    · intro accepted text member
      rcases accepted with ⟨last, accepted⟩
      rcases (bind_eq_ok _ _ _).mp accepted with ⟨next, here, rest⟩
      rcases List.mem_cons.mp member with same | later
      · exact (ran step options).mp ⟨next, here⟩ text same.symm
      · exact (ih next).mp ⟨last, rest⟩ text later
    · intro readable
      have first : ∀ text, step = .read text → Readable text := by
        intro text same
        exact readable text (same ▸ List.mem_cons_self)
      rcases (ran step options).mpr first with ⟨next, here⟩
      have others := fun text later => readable text (List.mem_cons_of_mem step later)
      rcases (ih next).mpr others with ⟨last, rest⟩
      exact ⟨last, (bind_eq_ok _ _ _).mpr ⟨next, here, rest⟩⟩

end RouteTemplate.Options
