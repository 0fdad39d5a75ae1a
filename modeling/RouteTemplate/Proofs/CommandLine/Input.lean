import RouteTemplate.CommandLine.Input
import RouteTemplate.Proofs.FirstFailure
import RouteTemplate.Proofs.Json.Grammar

namespace RouteTemplate

namespace Json

theorem isBlank_digitChar (digit : Digit) : Text.isBlank (digitChar digit) = false := by
  revert digit
  decide

theorem spells_visible (datum : Datum) (text : List Char) (spells : Spells datum text) :
    ∃ c ∈ text, Text.isBlank c = false := by
  cases spells with
  | null => exact ⟨'n', List.mem_cons_self, by decide⟩
  | false => exact ⟨'f', List.mem_cons_self, by decide⟩
  | true => exact ⟨'t', List.mem_cons_self, by decide⟩
  | number spelled =>
    cases spelled with
    | intro negative first more =>
      exact ⟨digitChar first, by simp [digitText], isBlank_digitChar first⟩
  | text => exact ⟨'"', List.mem_cons_self, by decide⟩
  | noItems => exact ⟨'[', List.mem_cons_self, by decide⟩
  | items => exact ⟨'[', List.mem_cons_self, by decide⟩
  | noMembers => exact ⟨'\x7b', List.mem_cons_self, by decide⟩
  | members => exact ⟨'\x7b', List.mem_cons_self, by decide⟩

theorem padded_visible (datum : Datum) (text : List Char) (padded : Padded datum text) :
    ∃ c ∈ text, Text.isBlank c = false := by
  cases padded with
  | intro _ spelled _ =>
    obtain ⟨c, member, shown⟩ := spells_visible datum _ spelled
    exact ⟨c, List.mem_append_left _ (List.mem_append_right _ member), shown⟩

theorem not_padded_of_blank (text : String) (blank : Text.allBlank text = true) (datum : Datum) :
    ¬ Padded datum text.toList := by
  intro padded
  obtain ⟨c, member, visible⟩ := padded_visible datum _ padded
  rw [List.all_eq_true.mp blank c member] at visible
  cases visible

end Json

namespace CommandLine

def Unreadable (content : Except ReadFault ByteArray) (fault : ReadFault) : Prop :=
  content = .error fault ∨
    fault = .notUtf8 ∧ ∃ bytes, content = .ok bytes ∧ ∀ text : String, bytes ≠ text.toUTF8

theorem fromUTF8?_eq_some (bytes : ByteArray) (text : String) :
    String.fromUTF8? bytes = some text ↔ bytes = text.toUTF8 := by
  rw [String.fromUTF8?]
  constructor
  · intro found
    split at found
    · cases found
      rfl
    · cases found
  · rintro rfl
    exact dif_pos text.isValidUTF8

theorem readText_eq_ok (content : Except ReadFault ByteArray) (text : String) :
    content >>= utf8Text = .ok text ↔ content = .ok text.toUTF8 := by
  cases content with
  | error fault => simp [bind, Except.bind]
  | ok bytes =>
    show utf8Text bytes = .ok text ↔ _
    rw [Except.ok.injEq, ← fromUTF8?_eq_some, utf8Text]
    cases String.fromUTF8? bytes <;> simp

theorem readText_eq_error (content : Except ReadFault ByteArray) (fault : ReadFault) :
    content >>= utf8Text = .error fault ↔ Unreadable content fault := by
  cases content with
  | error fault => simp [Unreadable, bind, Except.bind]
  | ok bytes =>
    show utf8Text bytes = .error fault ↔ _
    have noText : (∀ text : String, bytes ≠ text.toUTF8) ↔ String.fromUTF8? bytes = none := by
      simp only [Option.eq_none_iff_forall_ne_some, ne_eq, fromUTF8?_eq_some]
    simp only [Unreadable, reduceCtorEq, false_or, Except.ok.injEq, exists_eq_left', noText,
      utf8Text]
    cases String.fromUTF8? bytes <;> simp [eq_comm]

/-- Whether the source holds the text, and nothing else. -/
inductive Gives (world : World) : Option Source → String → Prop
  | inline (text : String) : Gives world (some (.inline text)) text
  | standardInput {text : String} (held : world.input = .ok text.toUTF8) :
    Gives world (some .standardInput) text
  | file {path text : String} (held : world.file path = .ok text.toUTF8) :
    Gives world (some (.file path)) text

/-- The message where the source gives no text. -/
inductive Refuses (world : World) (subject : Subject) : Option Source → String → Prop
  | missing : Refuses world subject none
    (subject.text ++ " is required: use a path, `-` for stdin, or inline JSON")
  | standardInput {fault : ReadFault} (unreadable : Unreadable world.input fault) :
    Refuses world subject (some .standardInput) ("failed to read stdin: " ++ fault.message)
  | file {path : String} {fault : ReadFault} (unreadable : Unreadable (world.file path) fault) :
    Refuses world subject (some (.file path))
      ("failed to read '" ++ path ++ "': " ++ fault.message)

theorem text_eq_ok (world : World) (subject : Subject) (source : Option Source) (text : String) :
    world.text subject source = .ok text ↔ Gives world source text := by
  constructor
  · intro given
    rcases source with _ | ⟨inline⟩ | _ | ⟨path⟩
    · cases given
    · cases given
      exact .inline text
    · rw [World.text, mapError_eq_ok, readText_eq_ok] at given
      exact .standardInput given
    · rw [World.text, mapError_eq_ok, readText_eq_ok] at given
      exact .file given
  · intro given
    cases given with
    | inline => rfl
    | standardInput held => rw [World.text, mapError_eq_ok, readText_eq_ok, held]
    | file held => rw [World.text, mapError_eq_ok, readText_eq_ok, held]

theorem text_eq_error (world : World) (subject : Subject) (source : Option Source)
    (message : String) :
    (∃ error, world.text subject source = .error error ∧ error.message = message) ↔
      Refuses world subject source message := by
  constructor
  · intro failed
    obtain ⟨error, failed, rfl⟩ := failed
    rcases source with _ | ⟨inline⟩ | _ | ⟨path⟩
    · cases failed
      exact .missing
    · cases failed
    · obtain ⟨fault, unreadable, rfl⟩ := (mapError_eq_error _ _ _).mp failed
      exact .standardInput ((readText_eq_error _ _).mp unreadable)
    · obtain ⟨fault, unreadable, rfl⟩ := (mapError_eq_error _ _ _).mp failed
      exact .file ((readText_eq_error _ _).mp unreadable)
  · intro refuses
    cases refuses with
    | missing => exact ⟨_, rfl, rfl⟩
    | standardInput unreadable =>
      exact ⟨_, (mapError_eq_error _ _ _).mpr ⟨_, (readText_eq_error _ _).mpr unreadable, rfl⟩, rfl⟩
    | file unreadable =>
      exact ⟨_, (mapError_eq_error _ _ _).mpr ⟨_, (readText_eq_error _ _).mpr unreadable, rfl⟩, rfl⟩

end CommandLine

end RouteTemplate
