import Mathlib.Data.List.TakeDrop
import Mathlib.Data.List.TakeWhile
import RouteTemplate.Action

namespace RouteTemplate

section Span

variable {α : Type} [DecidableEq α] (separator : α)

theorem span_separator (before after : List α) (plain : separator ∉ before) :
    (before ++ separator :: after).span (· ≠ separator) = (before, separator :: after) := by
  have free : ∀ item ∈ before, decide (item ≠ separator) = true := by
    intro item member
    exact decide_eq_true fun same => plain (same ▸ member)
  rw [List.span_eq_takeWhile_dropWhile, List.takeWhile_append_of_pos free,
    List.dropWhile_append_of_pos free]
  simp

theorem span_plain (items : List α) (absent : separator ∉ items) :
    items.span (· ≠ separator) = (items, []) := by
  have free : ∀ item ∈ items, decide (item ≠ separator) = true := by
    intro item member
    exact decide_eq_true fun same => absent (same ▸ member)
  rw [List.span_eq_takeWhile_dropWhile, List.takeWhile_eq_self_iff.mpr free,
    List.dropWhile_eq_nil_iff.mpr free]

end Span

namespace Action

/-- Whether the action can be read from a text. -/
def Readable (action : Action) : Prop :=
  action.controller ≠ "" ∧ '#' ∉ action.controller.toList ∧ action.name ≠ ""

instance (action : Action) : Decidable action.Readable := inferInstanceAs (Decidable (_ ∧ _))

theorem isComplete_iff (action : Action) :
    action.isComplete = true ↔ action.controller ≠ "" ∧ action.name ≠ "" := by
  simp [isComplete]

theorem toList_text (action : Action) :
    action.text.toList = action.controller.toList ++ '#' :: action.name.toList := by
  simp [text]

theorem parse_text (action : Action) (plain : '#' ∉ action.controller.toList) :
    parse action.text =
      if action.isComplete then .ok action else .error (.emptyHalf action.text) := by
  rw [parse, toList_text, span_separator '#' _ _ plain]
  simp only [String.ofList_toList]

theorem parse_noSeparator (text : String) (absent : '#' ∉ text.toList) :
    parse text = .error (.noSeparator text) := by
  rw [parse, span_plain '#' _ absent]

theorem text_of_separator (text : String) (present : '#' ∈ text.toList) :
    ∃ action : Action, '#' ∉ action.controller.toList ∧ action.text = text := by
  obtain ⟨before, after, split, plain⟩ := List.eq_append_cons_of_mem present
  refine ⟨⟨String.ofList before, String.ofList after⟩, ?_, ?_⟩
  · rwa [String.toList_ofList]
  · apply String.toList_inj.mp
    rw [toList_text, split, String.toList_ofList, String.toList_ofList]

theorem parse_eq_ok_iff (text : String) (action : Action) :
    parse text = .ok action ↔ action.Readable ∧ action.text = text := by
  constructor
  · intro accepted
    by_cases present : '#' ∈ text.toList
    · obtain ⟨found, plain, rfl⟩ := text_of_separator text present
      rw [parse_text found plain] at accepted
      by_cases complete : found.isComplete = true
      · rw [if_pos complete] at accepted
        have halves := (isComplete_iff found).mp complete
        cases accepted
        exact ⟨⟨halves.1, plain, halves.2⟩, rfl⟩
      · rw [if_neg complete] at accepted
        cases accepted
    · rw [parse_noSeparator text present] at accepted
      cases accepted
  · intro found
    obtain ⟨⟨controller, plain, name⟩, rfl⟩ := found
    rw [parse_text action plain, if_pos ((isComplete_iff action).mpr ⟨controller, name⟩)]

theorem text_injOn (first second : Action) (readable : first.Readable)
    (other : second.Readable) (same : first.text = second.text) : first = second := by
  have parsed := (parse_eq_ok_iff first.text first).mpr ⟨readable, rfl⟩
  have parsedOther := (parse_eq_ok_iff second.text second).mpr ⟨other, rfl⟩
  rw [same, parsedOther] at parsed
  exact (Except.ok.inj parsed).symm

theorem parse_text_cases (action : Action) :
    (∃ found, parse action.text = .ok found) ∨
      parse action.text = .error (.emptyHalf action.text) := by
  have present : '#' ∈ action.text.toList := by simp [toList_text]
  obtain ⟨found, plain, same⟩ := text_of_separator action.text present
  rw [← same, parse_text found plain]
  by_cases complete : found.isComplete = true
  · rw [if_pos complete]
    exact Or.inl ⟨found, rfl⟩
  · rw [if_neg complete]
    exact Or.inr rfl

theorem parse_text_unreadable (action : Action) (unreadable : ¬ action.Readable) :
    parse action.text = .error (.emptyHalf action.text) ∨
      ∃ other, other ≠ action ∧ parse action.text = .ok other ∧ other.text = action.text := by
  rcases parse_text_cases action with ⟨other, accepted⟩ | refused
  · rcases (parse_eq_ok_iff action.text other).mp accepted with ⟨readable, same⟩
    right
    refine ⟨other, ?_, accepted, same⟩
    intro equal
    exact unreadable (equal ▸ readable)
  · exact Or.inl refused

theorem parse_accepts_iff (text : String) :
    (∃ action, parse text = .ok action) ↔ ∃ before after : List Char,
      text.toList = before ++ '#' :: after ∧ '#' ∉ before ∧ before ≠ [] ∧ after ≠ [] := by
  simp only [parse_eq_ok_iff]
  constructor
  · intro found
    rcases found with ⟨action, ⟨controller, plain, name⟩, rfl⟩
    refine ⟨action.controller.toList, action.name.toList, toList_text action, plain, ?_, ?_⟩
    · exact fun empty => controller (String.toList_eq_nil_iff.mp empty)
    · exact fun empty => name (String.toList_eq_nil_iff.mp empty)
  · intro found
    rcases found with ⟨before, after, split, plain, controller, name⟩
    have written : (Action.mk (String.ofList before) (String.ofList after)).text = text := by
      apply String.toList_inj.mp
      rw [toList_text, split, String.toList_ofList, String.toList_ofList]
    refine ⟨⟨String.ofList before, String.ofList after⟩, ⟨?_, ?_, ?_⟩, written⟩
    · simpa using controller
    · simpa using plain
    · simpa using name

/-- Read are the texts with something on either side of the first separator, and what is read of
them has that text. An action comes back from its text if both halves are there and the first one
has no separator. The text of any other action lacks a half or is read as another action, but it
always has a separator. So no two actions that are read have the same text. -/
theorem parse_inverts_text :
    (∀ text, (∃ action, parse text = .ok action) ↔ ∃ before after : List Char,
      text.toList = before ++ '#' :: after ∧ '#' ∉ before ∧ before ≠ [] ∧ after ≠ []) ∧
    (∀ text action, parse text = .ok action →
      action.text = text ∧ '#' ∉ action.controller.toList) ∧
    (∀ action, parse action.text = .ok action ↔
      action.controller ≠ "" ∧ '#' ∉ action.controller.toList ∧ action.name ≠ "") ∧
    (∀ action, parse action.text ≠ .ok action →
      parse action.text = .error (.emptyHalf action.text) ∨
        ∃ other, other ≠ action ∧ parse action.text = .ok other ∧ other.text = action.text) ∧
    (∀ (action : Action) (text : String), parse action.text ≠ .error (.noSeparator text)) ∧
    ∀ first second firstText secondText, parse firstText = .ok first →
      parse secondText = .ok second → first.text = second.text → first = second := by
  have back (action : Action) : parse action.text = .ok action ↔ action.Readable := by
    rw [parse_eq_ok_iff, and_iff_left rfl]
  refine ⟨parse_accepts_iff, ?_, back, ?_, ?_, ?_⟩
  · intro text action accepted
    rcases (parse_eq_ok_iff text action).mp accepted with ⟨readable, same⟩
    exact ⟨same, readable.2.1⟩
  · intro action lost
    apply parse_text_unreadable
    rwa [← back]
  · intro action text refused
    rcases parse_text_cases action with ⟨other, accepted⟩ | empty
    · cases accepted.symm.trans refused
    · cases empty.symm.trans refused
  · intro first second firstText secondText accepted acceptedOther same
    exact text_injOn first second ((parse_eq_ok_iff _ _).mp accepted).1
      ((parse_eq_ok_iff _ _).mp acceptedOther).1 same

example : parse (Action.mk "a#b" "c").text = .ok ⟨"a", "b#c"⟩ := by decide

end Action

end RouteTemplate
