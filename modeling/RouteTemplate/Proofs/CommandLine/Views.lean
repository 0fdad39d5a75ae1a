import RouteTemplate.CommandLine.Run
import RouteTemplate.Proofs.Json.Tables
import RouteTemplate.Proofs.Manifest.Templates

/-!
What is printed of a manifest. A listing has an entry for each route, a table a row for each name,
and a single name gives the template of the last route that has it. The three are made in different
ways and show the same templates (`showManifest_agrees`).
-/

namespace RouteTemplate

open Manifest (IsLast own namedRoutes)

namespace CommandLine

abbrev Entry := Option String × Template

def Entry.line : Entry → String
  | (some name, template) => name ++ "\t" ++ template.text
  | (none, template) => template.text

def listingText (entries : List Entry) : String := "\n".intercalate (entries.map Entry.line) ++ "\n"

variable (options : Options) (manifest : Manifest)

/-- Whether the entries are those of the routes in order, each of which compiles. -/
def Lists (entries : List Entry) : Prop :=
  entries.map (fun entry => (entry.1, Except.ok entry.2)) =
    manifest.routes.map fun route => (route.name, manifest.own options route)

/-- Whether the rows give each name once, in the order in which the names come up first, with the
template of the last route of that name. -/
structure Tabulates (rows : List Json.Row) : Prop where
  names : rows.map Prod.fst = (manifest.routes.filterMap Route.name).eraseDups
  last : ∀ name text, (name, text) ∈ rows → ∃ route, IsLast manifest.routes name route ∧
    manifest.own options route = .ok ⟨text⟩

theorem lists_unique (entries others : List Entry) (lists : Lists options manifest entries)
    (again : Lists options manifest others) : entries = others := by
  refine List.map_injective_iff.mpr ?_ (lists.trans again.symm)
  rintro ⟨name, template⟩ ⟨otherName, otherTemplate⟩ same
  cases same
  rfl

theorem last_unique (name : String) (route other : Route)
    (last : IsLast manifest.routes name route) (again : IsLast manifest.routes name other) :
    route = other := by
  have found := (Manifest.route?_eq_some manifest name route).mpr last
  rw [(Manifest.route?_eq_some manifest name other).mpr again] at found
  exact (Option.some.inj found).symm

theorem tabulates_own (rows : List Json.Row) (tabulates : Tabulates options manifest rows) :
    rows.map (fun row => (row.1, some (Except.ok (Template.mk row.2)))) =
      (manifest.routes.filterMap Route.name).eraseDups.map fun name =>
        (name, (manifest.route? name).map (manifest.own options)) := by
  -- A row is known from its name, since only one route is the last of that name.
  rw [← tabulates.names, List.map_map]
  apply List.map_congr_left
  intro row member
  rcases tabulates.last row.1 row.2 member with ⟨route, last, own⟩
  rw [Function.comp_apply, (Manifest.route?_eq_some manifest row.1 route).mpr last, Option.map_some,
    own]

theorem tabulates_unique (rows others : List Json.Row) (tabulates : Tabulates options manifest rows)
    (again : Tabulates options manifest others) : rows = others := by
  have same := tabulates_own options manifest rows tabulates
  rw [← tabulates_own options manifest others again] at same
  refine List.map_injective_iff.mpr ?_ same
  rintro ⟨name, text⟩ ⟨otherName, otherText⟩ alike
  cases alike
  rfl

theorem listingLine_eq (route : Route) (template : Template) :
    listingLine route template = Entry.line (route.name, template) := by
  rw [listingLine]
  cases route.name <;> rfl

theorem entries_of_templates (routes : List Route) (templates : List Template)
    (each : routes.map (manifest.own options) = templates.map .ok) :
    ∃ entries : List Entry,
      entries.map (fun entry => (entry.1, Except.ok entry.2)) =
        routes.map (fun route => (route.name, manifest.own options route)) ∧
      entries.map Entry.line = routes.zipWith listingLine templates := by
  induction routes generalizing templates with
  | nil => exact ⟨[], rfl, rfl⟩
  | cons route routes ih =>
    cases templates with
    | nil => cases each
    | cons template templates =>
      rw [List.map_cons, List.map_cons, List.cons.injEq] at each
      obtain ⟨entries, shown, lines⟩ := ih templates each.2
      refine ⟨(route.name, template) :: entries, ?_, ?_⟩
      · rw [List.map_cons, List.map_cons, shown, each.1]
      · rw [List.map_cons, List.zipWith_cons_cons, lines, listingLine_eq]

theorem showManifest_listing (listing : String)
    (shown : showManifest options manifest .listing = .ok listing) :
    ∃ entries, Lists options manifest entries ∧ listing = listingText entries := by
  obtain ⟨templates, compiled, rfl⟩ := (bind_pure_eq_ok _ _ _).mp shown
  rw [mapError_eq_ok, Manifest.templates_outcome, mapM_eq_ok] at compiled
  obtain ⟨entries, lists, lines⟩ :=
    entries_of_templates options manifest manifest.routes templates compiled
  exact ⟨entries, lists, by rw [listingText, lines]⟩

theorem showManifest_json (table : String)
    (shown : showManifest options manifest .json = .ok table) :
    ∃ rows, Tabulates options manifest rows ∧ table = Json.prettyObject rows ++ "\n" := by
  obtain ⟨found, compiled, rfl⟩ := (bind_pure_eq_ok _ _ _).mp shown
  rw [mapError_eq_ok] at compiled
  refine ⟨found.entries.map fun entry => (entry.1, entry.2.text), ⟨?_, ?_⟩, rfl⟩
  · rw [List.map_map]
    exact Manifest.namedTemplates_keys manifest options found compiled
  · intro name text member
    obtain ⟨⟨key, template⟩, listed, same⟩ := List.mem_map.mp member
    cases same
    have value := (found.find?_eq_some key template).mpr listed
    have last := Manifest.namedTemplates_find? manifest options found compiled key
    rw [value] at last
    obtain ⟨route, isLast, own⟩ := Option.map_eq_some_iff.mp last.symm
    exact ⟨route, (Manifest.route?_eq_some manifest key route).mp isLast, own⟩

theorem showManifest_named (name output : String) :
    showManifest options manifest (.named name) = .ok output ↔
      ∃ route template, IsLast manifest.routes name route ∧
        manifest.own options route = .ok template ∧ output = template.text ++ "\n" := by
  simp only [← Manifest.route?_eq_some]
  refine (bind_pure_eq_ok _ _ _).trans ?_
  simp only [Manifest.templateFor_eq_ok]
  constructor
  · intro found
    obtain ⟨template, ⟨route, last, own⟩, same⟩ := found
    exact ⟨route, template, last, own, same⟩
  · intro found
    obtain ⟨route, template, last, own, same⟩ := found
    exact ⟨template, ⟨route, last, own⟩, same⟩

theorem showManifest_listing_error (error : ManifestError) :
    showManifest options manifest .listing = .error error ↔
      ∃ failure, FirstFailure (manifest.own options) manifest.routes failure ∧
        .compile failure = error := by
  refine (bind_pure_eq_error _ _ _).trans ?_
  rw [mapError_eq_error, Manifest.templates_outcome]
  simp only [mapM_eq_error]

theorem showManifest_json_error (error : ManifestError) :
    showManifest options manifest .json = .error error ↔
      ∃ failure, FirstFailure (manifest.own options) (namedRoutes manifest.routes) failure ∧
        .compile failure = error := by
  refine (bind_pure_eq_error _ _ _).trans ?_
  rw [mapError_eq_error]
  simp only [Manifest.namedTemplates_eq_error]

theorem lists_own {entries : List Entry} (lists : Lists options manifest entries) :
    ∀ route ∈ manifest.routes, ∃ template, manifest.own options route = .ok template := by
  intro route member
  have listed : (route.name, manifest.own options route) ∈
      entries.map fun entry => (entry.1, Except.ok entry.2) := by
    rw [lists]
    exact List.mem_map.mpr ⟨route, member, rfl⟩
  obtain ⟨entry, _, same⟩ := List.mem_map.mp listed
  exact ⟨entry.2, (Prod.mk.inj same).2.symm⟩

theorem lists_names {entries : List Entry} (lists : Lists options manifest entries) :
    entries.filterMap Prod.fst = manifest.routes.filterMap Route.name := by
  have names := congrArg (List.filterMap Prod.fst) lists
  rwa [List.filterMap_map, List.filterMap_map] at names

theorem lists_last {entries : List Entry} (lists : Lists options manifest entries) (name : String) :
    (lastValue? entries (some name)).map .ok =
      (manifest.route? name).map (manifest.own options) := by
  have last := congrArg (lastValue? · (some name)) lists
  have same : (fun route : Route => route.name == some name) =
      fun route => decide (route.name = some name) := funext fun route => beq_eq_decide _ _
  simp only [lastValue?_map] at last
  rw [last, lastValue?, ← List.map_reverse, List.find?_map, Option.map_map, Manifest.route?, same]
  rfl

theorem showManifest_json_of_listing (listing : String)
    (shown : showManifest options manifest .listing = .ok listing) :
    ∃ table, showManifest options manifest .json = .ok table := by
  obtain ⟨entries, lists, _⟩ := showManifest_listing options manifest listing shown
  cases outcome : showManifest options manifest .json with
  | ok table => exact ⟨table, rfl⟩
  | error error =>
    obtain ⟨failure, ⟨before, route, after, split, _, refused⟩, _⟩ :=
      (showManifest_json_error options manifest error).mp outcome
    have named : route ∈ namedRoutes manifest.routes := by simp [split]
    obtain ⟨template, compiled⟩ :=
      lists_own options manifest lists route (List.mem_of_mem_filter named)
    cases compiled.symm.trans refused

theorem row_shown {entries : List Entry} {rows : List Json.Row}
    (lists : Lists options manifest entries) (tabulates : Tabulates options manifest rows)
    (name : String) (given : name ∈ manifest.routes.filterMap Route.name) :
    ∃ template, lastValue? entries (some name) = some template ∧ (name, template.text) ∈ rows ∧
      showManifest options manifest (.named name) = .ok (template.text ++ "\n") := by
  rw [← List.mem_eraseDups, ← tabulates.names] at given
  obtain ⟨⟨key, text⟩, member, rfl⟩ := List.mem_map.mp given
  obtain ⟨route, last, own⟩ := tabulates.last key text member
  have value := lists_last options manifest lists key
  rw [(Manifest.route?_eq_some manifest key route).mpr last, Option.map_some, own] at value
  obtain ⟨template, found, same⟩ := Option.map_eq_some_iff.mp value
  cases same
  exact ⟨⟨text⟩, found, member,
    (showManifest_named options manifest key _).mpr ⟨route, ⟨text⟩, last, own, rfl⟩⟩

def preceded (route : Route) : Manifest := { manifest with routes := route :: manifest.routes }

theorem named_preceded (route : Route) (name output : String)
    (shown : showManifest options manifest (.named name) = .ok output) :
    showManifest options (preceded manifest route) (.named name) = .ok output := by
  rw [showManifest_named] at shown ⊢
  obtain ⟨other, template, ⟨before, after, split, given, later⟩, own, same⟩ := shown
  have routes : (preceded manifest route).routes = (route :: before) ++ other :: after :=
    congrArg (route :: ·) split
  exact ⟨other, template, ⟨route :: before, after, routes, given, later⟩, own, same⟩

theorem listing_preceded (route : Route) (error : CompileError)
    (refused : manifest.own options route = .error error) :
    showManifest options (preceded manifest route) .listing = .error (.compile error) := by
  refine (showManifest_listing_error options _ _).mpr ⟨error, ?_, rfl⟩
  exact (firstFailure_error _ route manifest.routes error error refused).mpr rfl

theorem json_preceded (route : Route) (error : CompileError)
    (refused : manifest.own options route = .error error) (named : route.name ≠ none) :
    showManifest options (preceded manifest route) .json = .error (.compile error) := by
  have first :
      namedRoutes (preceded manifest route).routes = route :: namedRoutes manifest.routes :=
    List.filter_cons_of_pos (Option.isSome_iff_ne_none.mpr named)
  refine (showManifest_json_error options _ _).mpr ⟨error, ?_, rfl⟩
  rw [first]
  exact (firstFailure_error _ route _ error error refused).mpr rfl

/-- The listing, the table and the single names of a manifest show the same templates. Where the
listing succeeds it has the entries of all routes in order, and the table and every name succeed
too: read again, the table gives each name once, in the order of the listing, with the template
that the name by itself gives and that its last entry in the listing has. A single name depends on
the last route that has it and on no other route: one that fails in front of all others stops the
listing, and if it has a name also the table, but not that name, even if it is its own. -/
theorem showManifest_agrees :
    (∀ listing, showManifest options manifest .listing = .ok listing →
      ∃ entries table rows, Lists options manifest entries ∧ listing = listingText entries ∧
        showManifest options manifest .json = .ok table ∧
        Json.read Json.Draft.table table = .ok rows ∧
        rows.map Prod.fst = (entries.filterMap Prod.fst).eraseDups ∧
        ∀ name ∈ manifest.routes.filterMap Route.name, ∃ template,
          lastValue? entries (some name) = some template ∧ (name, template.text) ∈ rows ∧
          showManifest options manifest (.named name) = .ok (template.text ++ "\n")) ∧
    (∀ error, showManifest options manifest .json = .error error →
      ∃ other, showManifest options manifest .listing = .error other) ∧
    (∀ name output, showManifest options manifest (.named name) = .ok output ↔
      ∃ route template, IsLast manifest.routes name route ∧
        manifest.own options route = .ok template ∧ output = template.text ++ "\n") ∧
    ∀ name output route error, showManifest options manifest (.named name) = .ok output →
      manifest.own options route = .error error →
      showManifest options (preceded manifest route) (.named name) = .ok output ∧
      showManifest options (preceded manifest route) .listing = .error (.compile error) ∧
      (route.name ≠ none →
        showManifest options (preceded manifest route) .json = .error (.compile error)) := by
  refine ⟨?_, ?_, showManifest_named options manifest, ?_⟩
  · intro listing shown
    obtain ⟨entries, lists, text⟩ := showManifest_listing options manifest listing shown
    obtain ⟨table, shownTable⟩ := showManifest_json_of_listing options manifest listing shown
    obtain ⟨rows, tabulates, written⟩ := showManifest_json options manifest table shownTable
    refine ⟨entries, table, rows, lists, text, shownTable, ?_, ?_, ?_⟩
    · rw [written, Json.read_prettyObject]
    · rw [tabulates.names, lists_names options manifest lists]
    · exact row_shown options manifest lists tabulates
  · intro error failed
    cases shown : showManifest options manifest .listing with
    | error other => exact ⟨other, rfl⟩
    | ok listing =>
      obtain ⟨table, shownTable⟩ := showManifest_json_of_listing options manifest listing shown
      cases shownTable.symm.trans failed
  · intro name output route error shown refused
    exact ⟨named_preceded options manifest route name output shown,
      listing_preceded options manifest route error refused,
      json_preceded options manifest route error refused⟩

def quotedNames : Manifest :=
  .ofRoutes [⟨some "\"a", .slash, {}⟩, ⟨none, .dot, {}⟩, ⟨some "\"a", .symbol ":id", {}⟩]

theorem showManifest_agrees_quotedNames :
    showManifest .default quotedNames .listing = .ok "\"a\t/\n.\n\"a\t\x7bid\x7d\n" ∧
    (∃ table, showManifest .default quotedNames .json = .ok table ∧
      ∃ rows, Json.read Json.Draft.table table = .ok rows ∧ rows.map Prod.fst = ["\"a"] ∧
        ("\"a", "\x7bid\x7d") ∈ rows) ∧
    let bad : Route := ⟨some "\"a", .group (.group .slash), {}⟩
    showManifest .default (preceded quotedNames bad) (.named "\"a") = .ok "\x7bid\x7d\n" ∧
    showManifest .default (preceded quotedNames bad) .json =
      .error (.compile (.nestedGroups (.group .slash))) := by
  have listed : showManifest .default quotedNames .listing =
      .ok "\"a\t/\n.\n\"a\t\x7bid\x7d\n" := by decide
  have single : showManifest .default quotedNames (.named "\"a") = .ok "\x7bid\x7d\n" := by decide
  obtain ⟨all, _, _, shadowed⟩ := showManifest_agrees .default quotedNames
  obtain ⟨entries, table, rows, lists, _, shown, again, names, each⟩ := all _ listed
  obtain ⟨kept, _, failed⟩ :=
    shadowed "\"a" _ ⟨some "\"a", .group (.group .slash), {}⟩ _ single rfl
  refine ⟨listed, ⟨table, shown, rows, again, ?_, ?_⟩, kept, failed (by decide)⟩
  · rw [names, lists_names .default quotedNames lists]
    decide
  · obtain ⟨⟨text⟩, _, member, named⟩ := each "\"a" (by decide)
    have written : "\x7bid\x7d\n" = "\x7bid\x7d" ++ "\n" := by decide
    rw [single, written, Except.ok.injEq, String.append_left_inj "\n"] at named
    exact named ▸ member

end CommandLine

end RouteTemplate
