import RouteTemplate.Proofs.CommandLine.Spelling
import RouteTemplate.Proofs.Options.Runs

/-!
The options that settings ask for. They depend on which flags are given and not on where these stand
(`asksFor_options`), and all else that is read from settings does not depend on the flags. Settings
may stand together if they may without the flags, and no flag is repeated that must not be
(`areValid_plain`).
-/

namespace RouteTemplate.CommandLine

def Switch.isFlag : Switch → Bool
  | ignore | noIgnore | noParams => true
  | tree | param | json | name => false

namespace Setting

def isFlag (setting : Setting) : Bool := setting.switch?.any Switch.isFlag

def Fits : Setting → Prop
  | flag switch => switch.takesValue = false
  | value switch _ => switch.takesValue = true
  | path _ => True

theorem fits_of_written (allowed : List Switch) (setting : Setting) (here : List String)
    (written : setting.Written allowed here) : setting.Fits := by
  cases written with
  | path plain => trivial
  | flag known called bare => exact bare
  | attached known called takes => exact takes
  | apart known called takes plain => exact takes

end Setting

theorem fits_of_spells (allowed : List Switch) (arguments : List String) (settings : Settings)
    (spells : Spells allowed arguments settings) : ∀ setting ∈ settings, setting.Fits := by
  induction spells with
  | done => exact fun _ member => absurd member List.not_mem_nil
  | paths texts =>
    intro setting member
    rcases List.mem_map.mp member with ⟨text, _, rfl⟩
    trivial
  | setting written following ih =>
    exact List.forall_mem_cons.mpr ⟨Setting.fits_of_written allowed _ _ written, ih⟩

namespace Settings

/-- Whether the options are those that the settings ask for, in whatever order they do. -/
structure AsksFor (settings : Settings) (options : Options) : Prop where
  ignored : ∀ name, options.isIgnored name = true ↔
    .value .ignore name ∈ settings ∨ name = "format" ∧ .flag .noIgnore ∉ settings
  params : options.params = false ↔ .flag .noParams ∈ settings

def plain (settings : Settings) : Settings := settings.filter fun setting => !setting.isFlag

theorem mem_values (settings : Settings) (switch : Switch) (text : String) :
    text ∈ settings.values switch ↔ .value switch text ∈ settings := by
  rw [values, List.mem_filterMap]
  constructor
  · intro found
    rcases found with ⟨setting, member, same⟩
    cases setting with
    | value other given =>
      rw [Setting.valueOf?, Option.ite_none_right_eq_some] at same
      rcases same with ⟨rfl, same⟩
      cases same
      exact member
    | flag other => cases same
    | path given => cases same
  · intro member
    exact ⟨_, member, if_pos rfl⟩

section Fitting

variable (settings : Settings) (fits : ∀ setting ∈ settings, setting.Fits) (switch : Switch)
  (bare : switch.takesValue = false)

include fits bare

theorem switch?_eq_some (setting : Setting) (member : setting ∈ settings) :
    setting.switch? = some switch ↔ setting = .flag switch := by
  have fitting := fits setting member
  cases setting with
  | flag other => simp [Setting.switch?]
  | path text => simp [Setting.switch?]
  | value other text =>
    refine iff_of_false ?_ nofun
    intro same
    cases same
    exact absurd (bare.symm.trans fitting) (by decide)

theorem has_iff : settings.has switch = true ↔ .flag switch ∈ settings := by
  rw [has, List.any_eq_true]
  constructor
  · intro found
    rcases found with ⟨setting, member, same⟩
    rw [← (switch?_eq_some settings fits switch bare setting member).mp (eq_of_beq same)]
    exact member
  · intro member
    exact ⟨_, member, beq_self_eq_true _⟩

theorem count_flag :
    (settings.filterMap Setting.switch?).count switch = settings.count (.flag switch) := by
  rw [List.count_filterMap, List.count_eq_countP]
  apply List.countP_congr
  intro setting member
  rw [beq_iff_eq, beq_iff_eq, switch?_eq_some settings fits switch bare setting member]

end Fitting

theorem ignored_options (settings : Settings) :
    settings.options.ignored.toList =
      ((if settings.has .noIgnore then [] else ["format"]) ++
        settings.values .ignore).eraseDups := by
  have named (start : Options) :
      (if settings.has .noParams then start.withoutParams else start).ignored = start.ignored := by
    cases settings.has .noParams <;> rfl
  rw [options, named, Options.ignored_foldl]
  cases settings.has .noIgnore <;> rfl

theorem params_options (settings : Settings) :
    settings.options.params = false ↔ settings.has .noParams = true := by
  rw [options]
  cases settings.has .noParams with
  | true => exact iff_of_true rfl rfl
  | false =>
    have unchanged := Options.params_foldl (settings.values .ignore)
    cases settings.has .noIgnore <;> simp [unchanged, Options.withIgnored, Options.default]

theorem asksFor_options (settings : Settings) (fits : ∀ setting ∈ settings, setting.Fits) :
    settings.AsksFor settings.options := by
  constructor
  · intro name
    rw [Options.isIgnored_iff, ignored_options, List.mem_eraseDups, List.mem_append, mem_values,
      ← has_iff settings fits .noIgnore rfl, or_comm]
    cases settings.has .noIgnore <;> simp
  · rw [params_options, has_iff settings fits .noParams rfl]

theorem read_eq_some (allowed : List Switch) (arguments : List String) (settings : Settings) :
    read allowed arguments = some settings ↔
      Spells allowed arguments settings ∧ settings.areValid = true := by
  rw [← Setting.readAll_eq_some]
  constructor
  · intro accepted
    rcases Option.bind_eq_some_iff.mp accepted with ⟨found, all, rest⟩
    rcases Option.bind_eq_some_iff.mp rest with ⟨_, guarded, same⟩
    cases same
    refine ⟨all, ?_⟩
    by_contra invalid
    rw [guard, if_neg invalid] at guarded
    cases guarded
  · intro found
    rcases found with ⟨all, valid⟩
    have guarded : (guard (settings.areValid = true) : Option Unit) = some () := if_pos valid
    exact Option.bind_eq_some_iff.mpr ⟨settings, all,
      Option.bind_eq_some_iff.mpr ⟨(), guarded, rfl⟩⟩

section Plain

variable (settings : Settings) (switch : Switch) (other : switch.isFlag = false)

theorem filterMap_plain {α : Type} (view : Setting → Option α)
    (blind : ∀ setting, setting.isFlag = true → view setting = none) :
    settings.plain.filterMap view = settings.filterMap view := by
  rw [plain, List.filterMap_filter]
  apply List.filterMap_congr
  intro setting _
  cases flag : setting.isFlag with
  | true => exact (blind setting flag).symm
  | false => rfl

theorem paths_plain : settings.plain.paths = settings.paths := by
  apply filterMap_plain
  intro setting flag
  cases setting with
  | path text => cases flag
  | flag given => rfl
  | value given text => rfl

include other

theorem values_plain : settings.plain.values switch = settings.values switch := by
  apply filterMap_plain
  intro setting flag
  cases setting with
  | value given text =>
    apply if_neg
    intro same
    subst same
    exact absurd (other.symm.trans flag) (by decide)
  | flag given => rfl
  | path text => rfl

omit settings in
theorem switch?_apart (setting : Setting) :
    (setting.switch? == some switch && !setting.isFlag) = (setting.switch? == some switch) := by
  cases same : setting.switch? == some switch with
  | false => rfl
  | true =>
    rw [Setting.isFlag, eq_of_beq same, Option.any_some, other]
    rfl

theorem count_plain :
    (settings.plain.filterMap Setting.switch?).count switch =
      (settings.filterMap Setting.switch?).count switch := by
  rw [List.count_filterMap, List.count_filterMap, plain, List.countP_filter]
  simp only [switch?_apart switch other]

theorem has_plain : settings.plain.has switch = settings.has switch := by
  rw [has, has, plain, List.any_filter]
  simp only [Bool.and_comm (!_), switch?_apart switch other]

omit other

theorem areValid_iff :
    settings.areValid = true ↔
      (∀ switch, switch.isRepeatable = false →
        (settings.filterMap Setting.switch?).count switch ≤ 1) ∧
      settings.paths.length ≤ 1 ∧ "" ∉ settings.paths := by
  have once (switch : Switch) :
      ((settings.filterMap Setting.switch?).filter (!·.isRepeatable)).count switch ≤ 1 ↔
        (switch.isRepeatable = false → (settings.filterMap Setting.switch?).count switch ≤ 1) := by
    cases repeatable : switch.isRepeatable with
    | true =>
      have absent : switch ∉ (settings.filterMap Setting.switch?).filter (!·.isRepeatable) := by
        simp [repeatable]
      rw [List.count_eq_zero.mpr absent]
      exact iff_of_true (Nat.zero_le 1) nofun
    | false =>
      rw [List.count_filter (by simp [repeatable])]
      exact (imp_iff_right rfl).symm
  have named : (!settings.paths.contains "") = true ↔ "" ∉ settings.paths := by
    rw [Bool.not_eq_true', ← Bool.not_eq_true, List.contains_iff_mem]
  rw [areValid, Bool.and_eq_true, Bool.and_eq_true, decide_eq_true_iff, decide_eq_true_iff, named,
    List.nodup_iff_count_le_one, and_assoc]
  exact and_congr_left' (forall_congr' once)

theorem areValid_plain (fits : ∀ setting ∈ settings, setting.Fits) :
    settings.areValid = true ↔ settings.plain.areValid = true ∧
      settings.count (.flag .noIgnore) ≤ 1 ∧ settings.count (.flag .noParams) ≤ 1 := by
  rw [areValid_iff, areValid_iff, paths_plain, ← count_flag settings fits .noIgnore rfl,
    ← count_flag settings fits .noParams rfl]
  constructor
  · intro valid
    rcases valid with ⟨once, single, named⟩
    refine ⟨⟨?_, single, named⟩, once .noIgnore rfl, once .noParams rfl⟩
    intro switch unrepeated
    have fewer : (settings.plain.filterMap Setting.switch?).Sublist
        (settings.filterMap Setting.switch?) := List.filter_sublist.filterMap _
    exact (fewer.count_le switch).trans (once switch unrepeated)
  · intro valid
    rcases valid with ⟨⟨once, single, named⟩, onceIgnore, onceParams⟩
    refine ⟨?_, single, named⟩
    intro switch unrepeated
    -- Options that are no flags stand as often without the flags, and of the flags only
    -- `--ignore` may be repeated.
    cases flag : switch.isFlag with
    | false =>
      rw [← count_plain settings switch flag]
      exact once switch unrepeated
    | true =>
      cases switch with
      | noIgnore => exact onceIgnore
      | noParams => exact onceParams
      | ignore => cases unrepeated
      | tree | param | json | name => cases flag

end Plain

end Settings

end RouteTemplate.CommandLine
