import RouteTemplate.Proofs.Json.Rewriting
import RouteTemplate.Proofs.Manifest.Decoding

/-!
Reading does not depend on how a manifest is presented. The objects of the manifest, of its routes
and of their defaults may have their members in any order, with unknown ones among them and with
empty ones written or left out, and any white space may stand between the tokens. None of them may
give a field twice (`Manifest.read_presentation`).
-/

namespace RouteTemplate

open Json

variable {datum other : Datum}

namespace Defaults

def forms : List FieldForm := [.plain "controller" (some .null), .plain "action" (some .null)]

theorem denotes_rewritten (defaults : Defaults) (rewritten : datum.Rewritten forms other)
    (denotes : Denotes datum defaults) : Denotes other defaults := by
  have distinct : (forms.map FieldForm.key).Nodup := by decide
  have field := rewritten.plain_iff distinct denotes.record
  constructor
  · exact (rewritten.isRecord_iff distinct).mp denotes.record
  · exact (field "controller" .null (.head _) (· = .optional _)).mp denotes.controller
  · exact (field "action" .null (.tail _ (.head _)) (· = .optional _)).mp denotes.action

theorem denotes_iff (defaults : Defaults) (rewritten : datum.Rewritten forms other) :
    Denotes datum defaults ↔ Denotes other defaults :=
  ⟨denotes_rewritten defaults rewritten, denotes_rewritten defaults rewritten.symm⟩

end Defaults

namespace Route

def forms : List FieldForm :=
  [.plain "name" (some .null), .plain "path" none,
    ⟨"defaults", some (.object []), Datum.Rewritten Defaults.forms⟩]

theorem denotes_rewritten (route : Route) (rewritten : datum.Rewritten forms other)
    (denotes : Denotes datum route) : Denotes other route := by
  have distinct : (forms.map FieldForm.key).Nodup := by decide
  constructor
  · exact (rewritten.isRecord_iff distinct).mp denotes.record
  · exact (rewritten.plain_iff distinct denotes.record "name" .null (.head _)
      (· = .optional _)).mp denotes.name
  · have path := rewritten.part?_iff distinct denotes.record (.plain "path" none)
      (.tail _ (.head _)) fun part => ∃ body, part = some body ∧ Pattern.Denotes body route.path
    refine (path ?_ ?_).mp denotes.path
    · intro datum known
      cases known
    · intro before after same
      rw [show before = after from same]
  · refine (rewritten.getD_iff distinct denotes.record "defaults" (.object []) _
      (.tail _ (.tail _ (.head _))) (Defaults.Denotes · _) ?_).mp denotes.defaults
    exact fun before after again => Defaults.denotes_iff _ again

theorem denotes_iff (route : Route) (rewritten : datum.Rewritten forms other) :
    Denotes datum route ↔ Denotes other route :=
  ⟨denotes_rewritten route rewritten, denotes_rewritten route rewritten.symm⟩

inductive Repeats (datum : Datum) : Prop where
  | here (repeated : datum.Repeats keys)
  | defaults (value : Datum) (given : (units "defaults", value) ∈ datum.members keys)
    (repeated : value.Repeats Defaults.keys)

theorem not_repeats (route : Route) (denotes : Denotes datum route) : ¬ Repeats datum := by
  intro repeats
  cases repeats with
  | here repeated => exact denotes.record.not_repeats keys repeated
  | defaults value given repeated =>
    have inner := denotes.defaults
    rw [denotes.record.part?_of_mem keys (by decide) "defaults" (by decide) value given] at inner
    exact inner.record.not_repeats Defaults.keys repeated

end Route

namespace Manifest

def forms : List FieldForm :=
  [⟨"routes", some (.list []), Datum.Itemwise (Datum.Rewritten Route.forms)⟩,
    .plain "params" (some (.object []))]

theorem listsRoutes_iff (routes : List Route)
    (rewritten : datum.Itemwise (Datum.Rewritten Route.forms) other) :
    ListsRoutes datum routes ↔ ListsRoutes other routes := by
  have listed (items : List Datum) :
      ListsRoutes (.list items) routes ↔ List.Forall₂ Route.Denotes items routes := by
    constructor
    · intro lists
      rcases lists with ⟨_, same, each⟩
      cases same
      exact each
    · exact fun each => ⟨items, rfl, each⟩
  cases rewritten with
  | list each =>
    rw [listed, listed]
    exact Datum.Itemwise.forall₂_iff Route.Denotes (fun _ _ route again =>
      Route.denotes_iff route again) _ _ each routes

theorem denotes_rewritten (manifest : Manifest) (rewritten : datum.Rewritten forms other)
    (denotes : Denotes datum manifest) : Denotes other manifest := by
  have distinct : (forms.map FieldForm.key).Nodup := by decide
  constructor
  · exact (rewritten.isRecord_iff distinct).mp denotes.record
  · refine (rewritten.getD_iff distinct denotes.record "routes" (.list []) _ (.head _)
      (ListsRoutes · _) ?_).mp denotes.routes
    exact fun before after each => listsRoutes_iff _ each
  · exact (rewritten.plain_iff distinct denotes.record "params" (.object []) (.tail _ (.head _))
      (Registry.Denotes · _)).mp denotes.params

inductive Repeats (datum : Datum) : Prop where
  | here (repeated : datum.Repeats keys)
  | route (items : List Datum) (given : (units "routes", .list items) ∈ datum.members keys)
    (item : Datum) (listed : item ∈ items) (repeated : Route.Repeats item)

theorem not_repeats (manifest : Manifest) (denotes : Denotes datum manifest) :
    ¬ Repeats datum := by
  intro repeats
  cases repeats with
  | here repeated => exact denotes.record.not_repeats keys repeated
  | route items given item listed repeated =>
    have inner := denotes.routes
    rw [denotes.record.part?_of_mem keys (by decide) "routes" (by decide) _ given] at inner
    rcases inner with ⟨_, same, each⟩
    cases same
    rcases List.getElem_of_mem listed with ⟨index, bound, rfl⟩
    have route := each.get bound (each.length_eq ▸ bound)
    exact Route.not_repeats _ route repeated

/-- A text that is accepted writes a value. Every text of that value, and of every value that edits
of its records make of it, is accepted as the same manifest. A text in which one of the records
gives a field twice is refused. -/
theorem read_presentation :
    (∀ text manifest, read text = .ok manifest → ∃ datum, Padded datum text.toList ∧
      ∀ rewritten other, datum.Rewritten forms rewritten → Padded rewritten other.toList →
        read other = .ok manifest) ∧
    ∀ datum text, Padded datum text.toList → Repeats datum → ∃ error, read text = .error error := by
  constructor
  · intro text manifest accepted
    rcases (read_eq_ok text manifest).mp accepted with ⟨datum, padded, denotes⟩
    refine ⟨datum, padded, ?_⟩
    intro rewritten other edited again
    exact (read_eq_ok other manifest).mpr
      ⟨rewritten, again, denotes_rewritten manifest edited denotes⟩
  · intro datum text padded repeats
    cases outcome : read text with
    | error error => exact ⟨error, rfl⟩
    | ok manifest =>
      rcases (read_eq_ok text manifest).mp outcome with ⟨found, again, denotes⟩
      rw [← padded_unique _ _ _ padded again] at denotes
      exact absurd repeats (not_repeats manifest denotes)

/-- Members that are added, moved and written with spaces, and a field that is given twice. -/
theorem read_presentation_moved :
    read "\x7b\"routes\":[\x7b\"path\":\"slash\"\x7d]\x7d" =
      .ok ⟨[⟨none, .slash, {}⟩], .empty⟩ ∧
    read " \x7b\"x\":[],\"routes\":[\x7b\"path\":\"slash\",\"name\":null\x7d]\x7d" =
      .ok ⟨[⟨none, .slash, {}⟩], .empty⟩ ∧
    ∃ error, read "\x7b\"routes\":[],\"routes\":[]\x7d" = .error error := by
  let value : Value := .object [("routes", .list [.object [("path", .text "slash")]])]
  let named : Datum := .object [(units "path", .string "slash"), (units "name", .null)]
  let rewritten : Datum := .object [(units "x", .list []), (units "routes", .list [named])]
  have blank : Spaces [] := by decide
  have space : Spaces [' '] := by decide
  have member (key : String) (datum : Datum) (text : List Char) (spelled : Spells datum text) :=
    Value.member_spells key datum text spelled.padded
  have padded : Padded value.datum value.compact.toList := value.compact_spells.padded
  have accepted : read value.compact = .ok ⟨[⟨none, .slash, {}⟩], .empty⟩ := by
    have route : Route.Denotes (Value.object [("path", .text "slash")]).datum ⟨none, .slash, {}⟩ :=
      ⟨Value.object_isRecord _ _ (by simp), rfl, ⟨_, rfl, .bareSlash⟩,
        (Defaults.denotes_empty {}).mpr rfl⟩
    exact (read_eq_ok _ _).mpr ⟨_, padded, Value.object_isRecord _ _ (by simp),
      ⟨_, rfl, .cons route .nil⟩, (Registry.denotes_empty .empty).mpr rfl⟩
  have edited : value.datum.Rewritten forms rewritten := by
    have route : Datum.Rewritten Route.forms (.object [(units "path", .string "slash")]) named :=
      .object (.trans _ _ _ (.rel _ _ (.blank _ (.head _) .null rfl _ rfl))
        (.rel _ _ (.permute (.swap _ _ _))))
    exact .object (.trans _ _ _ (.rel _ _ (.value _ (.head _) _ _
      (Datum.Itemwise.list (.cons route .nil)) []))
      (.rel _ _ (.unknown "x" _ _ (by decide))))
  have moved : Padded rewritten
      " \x7b\"x\":[],\"routes\":[\x7b\"path\":\"slash\",\"name\":null\x7d]\x7d".toList := by
    have inner : Spells named "\x7b\"path\":\"slash\",\"name\":null\x7d".toList :=
      .members (.more (member "path" _ _ (stringText_spells "slash"))
        (.last (member "name" _ _ .null)))
    exact .intro space (.members (.more (member "x" _ _ (.noItems blank))
      (.last (member "routes" _ _ (.items (.last inner.padded)))))) blank
  have doubled : Padded (.object [(units "routes", .list []), (units "routes", .list [])])
      "\x7b\"routes\":[],\"routes\":[]\x7d".toList := by
    have routes := member "routes" _ _ (.noItems blank)
    exact (Spells.members (.more routes (.last routes))).padded
  rcases read_presentation with ⟨alike, refused⟩
  rcases alike _ _ accepted with ⟨datum, again, same⟩
  rw [← padded_unique _ _ _ padded again] at same
  refine ⟨accepted, same rewritten _ edited moved, refused _ _ doubled (.here ?_)⟩
  exact ⟨"routes", .head _, by decide⟩

end Manifest

end RouteTemplate
