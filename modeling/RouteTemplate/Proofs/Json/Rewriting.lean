import Mathlib.Logic.Relation
import RouteTemplate.Proofs.Json.Records

/-!
Ways to write a record anew. An edit moves members, adds one that the record does not know, adds one
that says no more than its absence would, or writes a value otherwise. Whatever edits are made or
taken back, a record stays a record and its fields say the same (`Datum.Rewritten.part?_iff`).

An object that gives a field more than once is not a record (`Datum.IsRecord.not_repeats`).
-/

namespace RouteTemplate.Json

/-- How a field of a record may be written: the value that says as much as none, and which values
say the same. -/
structure FieldForm where
  key : String
  blank? : Option Datum
  Alike : Datum → Datum → Prop

def FieldForm.plain (key : String) (blank? : Option Datum) : FieldForm := ⟨key, blank?, Eq⟩

variable {forms : List FieldForm} {members others : List (List Nat × Datum)}

inductive Edit (forms : List FieldForm) :
    List (List Nat × Datum) → List (List Nat × Datum) → Prop where
  | permute {members others : List (List Nat × Datum)} (permuted : members.Perm others) :
    Edit forms members others
  | unknown (name : String) (datum : Datum) (members : List (List Nat × Datum))
    (other : ∀ form ∈ forms, form.key ≠ name) :
    Edit forms members ((units name, datum) :: members)
  | blank (form : FieldForm) (listed : form ∈ forms) (datum : Datum)
    (empty : form.blank? = some datum) (members : List (List Nat × Datum))
    (absent : valuesOf form.key members = []) :
    Edit forms members ((units form.key, datum) :: members)
  | value (form : FieldForm) (listed : form ∈ forms) (before after : Datum)
    (alike : form.Alike before after) (members : List (List Nat × Datum)) :
    Edit forms ((units form.key, before) :: members) ((units form.key, after) :: members)

inductive FieldForm.Changes (form : FieldForm) : List Datum → List Datum → Prop where
  | permute {values others : List Datum} (permuted : values.Perm others) :
    Changes form values others
  | blank (datum : Datum) (empty : form.blank? = some datum) : Changes form [] [datum]
  | value (before after : Datum) (alike : form.Alike before after) (values : List Datum) :
    Changes form (before :: values) (after :: values)

theorem valuesOf_perm (key : String) (permuted : members.Perm others) :
    (valuesOf key members).Perm (valuesOf key others) :=
  (permuted.filter _).map Prod.snd

theorem Edit.changes (distinct : (forms.map FieldForm.key).Nodup) (form : FieldForm)
    (listed : form ∈ forms) (edit : Edit forms members others) :
    form.Changes (valuesOf form.key members) (valuesOf form.key others) := by
  have same (other : FieldForm) (member : other ∈ forms) (key : form.key = other.key) :
      form = other := List.inj_on_of_nodup_map distinct listed member key
  cases edit with
  | permute permuted => exact .permute (valuesOf_perm form.key permuted)
  | unknown name datum members other =>
    rw [valuesOf_other form.key name datum members (other form listed)]
    exact .permute (.refl _)
  | blank edited member datum empty members absent =>
    by_cases key : form.key = edited.key
    · have equal := same edited member key
      subst equal
      rw [valuesOf_same, absent]
      exact .blank datum empty
    · rw [valuesOf_other form.key edited.key datum members key]
      exact .permute (.refl _)
  | value edited member before after alike members =>
    by_cases key : form.key = edited.key
    · have equal := same edited member key
      subst equal
      rw [valuesOf_same, valuesOf_same]
      exact .value before after alike _
    · rw [valuesOf_other form.key edited.key before members key,
        valuesOf_other form.key edited.key after members key]
      exact .permute (.refl _)

theorem FieldForm.Changes.single (form : FieldForm) (values changed : List Datum)
    (changes : form.Changes values changed) : values.length ≤ 1 ↔ changed.length ≤ 1 := by
  cases changes with
  | permute permuted => rw [permuted.length_eq]
  | blank datum _ => exact iff_of_true (Nat.zero_le 1) (Nat.le_refl 1)
  | value before after _ values => rw [List.length_cons, List.length_cons]

/-- What holds for no value as for the blank one, and for values that say the same alike, is not
changed where there is one value at most. -/
theorem FieldForm.Changes.head_iff (form : FieldForm) (means : Option Datum → Prop)
    (blank : ∀ datum, form.blank? = some datum → (means none ↔ means (some datum)))
    (alike : ∀ before after, form.Alike before after →
      (means (some before) ↔ means (some after)))
    (values changed : List Datum) (single : values.length ≤ 1)
    (changes : form.Changes values changed) : means values.head? ↔ means changed.head? := by
  cases changes with
  | permute permuted =>
    have same : values = changed := by
      match values with
      | [] => exact (List.nil_perm.mp permuted).symm
      | [_] => exact List.singleton_perm.mp permuted
    rw [same]
  | blank datum empty => exact blank datum empty
  | value before after related values => exact alike before after related

theorem Edit.named_iff (edit : Edit forms members others) :
    (∀ member ∈ members, ∃ key, member.1 = units key) ↔
      ∀ member ∈ others, ∃ key, member.1 = units key := by
  cases edit with
  | permute permuted =>
    constructor
    · exact fun named member listed => named member (permuted.mem_iff.mpr listed)
    · exact fun named member listed => named member (permuted.mem_iff.mp listed)
  | unknown name datum members _ =>
    rw [List.forall_mem_cons]
    exact (and_iff_right ⟨name, rfl⟩).symm
  | blank form _ datum _ members _ =>
    rw [List.forall_mem_cons]
    exact (and_iff_right ⟨form.key, rfl⟩).symm
  | value form _ before after _ members =>
    rw [List.forall_mem_cons, List.forall_mem_cons]

theorem Edit.isRecord_iff (distinct : (forms.map FieldForm.key).Nodup)
    (edit : Edit forms members others) :
    (Datum.object members).IsRecord (forms.map FieldForm.key) ↔
      (Datum.object others).IsRecord (forms.map FieldForm.key) := by
  refine and_congr edit.named_iff ?_
  rw [List.forall_mem_map, List.forall_mem_map]
  refine forall₂_congr fun form listed => ?_
  exact FieldForm.Changes.single form _ _ (edit.changes distinct form listed)

namespace Datum

/-- The same value, or an object whose members come from the others by edits, made or taken back. -/
inductive Rewritten (forms : List FieldForm) : Datum → Datum → Prop where
  | same (datum : Datum) : Rewritten forms datum datum
  | object {members others : List (List Nat × Datum)}
    (edited : Relation.EqvGen (Edit forms) members others) :
    Rewritten forms (.object members) (.object others)

inductive Itemwise (related : Datum → Datum → Prop) : Datum → Datum → Prop where
  | list {items others : List Datum} (each : List.Forall₂ related items others) :
    Itemwise related (.list items) (.list others)

variable {datum other : Datum}

theorem Rewritten.symm (rewritten : Rewritten forms datum other) : Rewritten forms other datum := by
  cases rewritten with
  | same => exact .same datum
  | object edited => exact .object (.symm _ _ edited)

theorem Rewritten.invariant (holds : Datum → Prop)
    (step : ∀ members others, Edit forms members others →
      (holds (.object members) ↔ holds (.object others)))
    (rewritten : Rewritten forms datum other) : holds datum ↔ holds other := by
  cases rewritten with
  | same => exact Iff.rfl
  | object edited =>
    induction edited with
    | rel members others edit => exact step members others edit
    | refl members => exact Iff.rfl
    | symm members others _ ih => exact ih.symm
    | trans members between others _ _ first second => exact first.trans second

theorem Rewritten.isRecord_iff (distinct : (forms.map FieldForm.key).Nodup)
    (rewritten : Rewritten forms datum other) :
    datum.IsRecord (forms.map FieldForm.key) ↔ other.IsRecord (forms.map FieldForm.key) :=
  rewritten.invariant _ fun _ _ edit => edit.isRecord_iff distinct

theorem Rewritten.part?_iff (distinct : (forms.map FieldForm.key).Nodup)
    (rewritten : Rewritten forms datum other) (isRecord : datum.IsRecord (forms.map FieldForm.key))
    (form : FieldForm) (listed : form ∈ forms) (means : Option Datum → Prop)
    (blank : ∀ datum, form.blank? = some datum → (means none ↔ means (some datum)))
    (alike : ∀ before after, form.Alike before after →
      (means (some before) ↔ means (some after))) :
    means (datum.part? (forms.map FieldForm.key) form.key) ↔
      means (other.part? (forms.map FieldForm.key) form.key) := by
  -- The members in between are a record too, so they give the field one value at most.
  have both := rewritten.invariant
    (fun datum => datum.IsRecord (forms.map FieldForm.key) ∧
      means (datum.part? (forms.map FieldForm.key) form.key)) (by
    intro members others edit
    rw [← edit.isRecord_iff distinct]
    refine and_congr_right fun record => ?_
    have single := record.2 form.key (List.mem_map_of_mem listed)
    exact FieldForm.Changes.head_iff form means blank alike _ _ single
      (edit.changes distinct form listed))
  rwa [and_iff_right isRecord, and_iff_right ((rewritten.isRecord_iff distinct).mp isRecord)]
    at both

theorem Rewritten.getD_iff (distinct : (forms.map FieldForm.key).Nodup)
    (rewritten : Rewritten forms datum other) (isRecord : datum.IsRecord (forms.map FieldForm.key))
    (key : String) (fallback : Datum) (Alike : Datum → Datum → Prop)
    (listed : ⟨key, some fallback, Alike⟩ ∈ forms) (means : Datum → Prop)
    (alike : ∀ before after, Alike before after → (means before ↔ means after)) :
    means ((datum.part? (forms.map FieldForm.key) key).getD fallback) ↔
      means ((other.part? (forms.map FieldForm.key) key).getD fallback) := by
  refine rewritten.part?_iff distinct isRecord ⟨key, some fallback, Alike⟩ listed
    (fun part => means (part.getD fallback)) ?_ alike
  intro datum known
  cases known
  exact Iff.rfl

theorem Rewritten.plain_iff (distinct : (forms.map FieldForm.key).Nodup)
    (rewritten : Rewritten forms datum other) (isRecord : datum.IsRecord (forms.map FieldForm.key))
    (key : String) (fallback : Datum) (listed : .plain key (some fallback) ∈ forms)
    (means : Datum → Prop) :
    means ((datum.part? (forms.map FieldForm.key) key).getD fallback) ↔
      means ((other.part? (forms.map FieldForm.key) key).getD fallback) := by
  apply rewritten.getD_iff distinct isRecord key fallback Eq listed means
  intro before after same
  rw [same]

theorem Itemwise.forall₂_iff {α : Type} {related : Datum → Datum → Prop} (means : Datum → α → Prop)
    (alike : ∀ before after value, related before after → (means before value ↔ means after value))
    (items others : List Datum) (each : List.Forall₂ related items others) (values : List α) :
    List.Forall₂ means items values ↔ List.Forall₂ means others values := by
  induction each generalizing values with
  | nil => exact Iff.rfl
  | cons here _ ih =>
    rw [List.forall₂_cons_left_iff, List.forall₂_cons_left_iff]
    simp only [alike _ _ _ here, ih]

def Repeats (keys : List String) : Datum → Prop
  | .object members => ∃ key ∈ keys, 1 < (valuesOf key members).length
  | _ => False

theorem IsRecord.not_repeats (keys : List String) (isRecord : datum.IsRecord keys) :
    ¬ datum.Repeats keys := by
  intro repeated
  cases datum with
  | object members =>
    rcases repeated with ⟨key, listed, twice⟩
    exact absurd (isRecord.2 key listed) (Nat.not_le.mpr twice)
  | _ => exact repeated

theorem IsRecord.part?_of_mem (keys : List String) (distinct : keys.Nodup)
    (isRecord : datum.IsRecord keys) (key : String) (listed : key ∈ keys) (value : Datum)
    (given : (units key, value) ∈ datum.members keys) : datum.part? keys key = some value := by
  have single : (valuesOf key (datum.members keys)).length ≤ 1 := by
    cases datum with
    | list items => exact Slot.valuesOf_zip_length keys distinct items key
    | object members => exact isRecord.2 key listed
    | _ => exact isRecord.elim
  have found : value ∈ valuesOf key (datum.members keys) :=
    List.mem_map.mpr ⟨_, List.mem_filter.mpr ⟨given, decide_eq_true rfl⟩, rfl⟩
  rcases List.length_eq_one_iff.mp (Nat.le_antisymm single (List.length_pos_of_mem found))
    with ⟨only, values⟩
  rw [values] at found
  rw [part?, values, List.mem_singleton.mp found]
  rfl

end Datum

end RouteTemplate.Json
