import RouteTemplate.Proofs.OrderedMap
import RouteTemplate.Proofs.Pattern.Nodes
import RouteTemplate.Proofs.Template.Rendering
import RouteTemplate.Template.Compiler

namespace RouteTemplate

namespace Names

/-- Whether two sets of names hold the same ones of those listed. -/
def AgreeOn (listed : List String) (first second : Names) : Prop :=
  ∀ name ∈ listed, name ∈ first.toList ↔ name ∈ second.toList

theorem AgreeOn.mono {listed others : List String} {first second : Names}
    (agree : AgreeOn listed first second) (fewer : others ⊆ listed) :
    AgreeOn others first second := fun name member => agree name (fewer member)

theorem mem_ofList (names : List String) (name : String) :
    name ∈ (ofList names).toList ↔ name ∈ names := by
  rw [ofList_toList, List.mem_eraseDups]

end Names

theorem undecorated_unmarked (name : String) :
    '*' ∉ (undecorated name).toList ∧ ':' ∉ (undecorated name).toList := by
  simp [undecorated, isMark]

namespace Pattern

def placeholderName? (pattern : Pattern) : Option String :=
  match pattern with
  | symbol _ | star _ => some (undecorated pattern.text)
  | _ => none

/-- The names of the symbols, and those of the stars, of which each has all of its text as one. -/
def placeholderNames (pattern : Pattern) : List String :=
  pattern.nodes.filterMap placeholderName?

theorem placeholderNames_mono {part pattern : Pattern} (below : part.nodes ⊆ pattern.nodes) :
    part.placeholderNames ⊆ pattern.placeholderNames := List.filterMap_subset _ below

theorem own_placeholderName {pattern : Pattern} {name : String}
    (own : pattern.placeholderName? = some name) : name ∈ pattern.placeholderNames := by
  refine List.mem_filterMap.mpr ⟨pattern, ?_, own⟩
  cases pattern <;> rw [nodes] <;> exact List.mem_cons_self

theorem symbol_placeholderName (name : String) :
    undecorated name ∈ (symbol name).placeholderNames :=
  own_placeholderName (by rw [placeholderName?, text])

theorem star_placeholderName (child : Pattern) :
    undecorated child.text ∈ (star child).placeholderNames :=
  own_placeholderName (by rw [placeholderName?, text])

theorem left_placeholderNames (left right : Pattern) :
    left.placeholderNames ⊆ (cat left right).placeholderNames :=
  placeholderNames_mono (nodes_left_subset left right)

theorem right_placeholderNames (left right : Pattern) :
    right.placeholderNames ⊆ (cat left right).placeholderNames :=
  placeholderNames_mono (nodes_right_subset left right)

theorem placeholderNames_unmarked (pattern : Pattern) (name : String)
    (member : name ∈ pattern.placeholderNames) : '*' ∉ name.toList ∧ ':' ∉ name.toList := by
  obtain ⟨node, _, named⟩ := List.mem_filterMap.mp member
  unfold placeholderName? at named
  split at named
  · exact Option.some.inj named ▸ undecorated_unmarked _
  · exact Option.some.inj named ▸ undecorated_unmarked _
  · cases named

variable {first second : Names}

theorem placeholder_agree (name : String) (form : Form)
    (agree : undecorated name ∈ first.toList ↔ undecorated name ∈ second.toList) :
    placeholder first name form = placeholder second name form := by
  simp only [placeholder, Names.contains, List.contains_iff_mem, agree]

theorem visitBranches_agree (branches : List Pattern)
    (below : ∀ branch ∈ branches, visit first branch = visit second branch) :
    visitBranches first branches = visitBranches second branches := by
  induction branches with
  | nil => rw [visitBranches, visitBranches]
  | cons branch others ih =>
    obtain ⟨head, tail⟩ := List.forall_mem_cons.mp below
    rw [visitBranches, visitBranches, head, ih tail]

/-- The two walks are one, with the visits on the way and the error that ends it. -/
theorem visit_agree (pattern : Pattern)
    (agree : Names.AgreeOn pattern.placeholderNames first second) :
    visit first pattern = visit second pattern := by
  induction pattern using joint_induction with
  | literal text => rw [visit, visit]
  | slash => rw [visit, visit]
  | dot => rw [visit, visit]
  | symbol name =>
    rw [visit, visit, placeholder_agree name .bare (agree _ (symbol_placeholderName name))]
  | star child ih =>
    rw [visit, visit, ih (agree.mono (placeholderNames_mono (nodes_star_subset child)))]
  | separated separator name =>
    have known := right_placeholderNames separator.pattern (symbol name)
      (symbol_placeholderName name)
    simp only [visit_separated, separated,
      fun form => placeholder_agree name form (agree _ known)]
  | splat child =>
    have known := right_placeholderNames slash (star child) (star_placeholderName child)
    simp only [visit, placeholder_agree child.text .segments (agree _ known)]
  | splatThen child rest ih =>
    have inner := right_placeholderNames slash (cat (star child) rest)
    have known := inner (left_placeholderNames (star child) rest (star_placeholderName child))
    have following := ih (agree.mono
      (List.Subset.trans (right_placeholderNames (star child) rest) inner))
    simp only [visit, placeholder_agree child.text .segments (agree _ known), following]
  | thenSplat leading between child ih =>
    have known := right_placeholderNames (cat leading between) (star child)
      (star_placeholderName child)
    have before := ih (agree.mono (left_placeholderNames (cat leading between) (star child)))
    rw [visit, visit, placeholder_agree child.text .segments (agree _ known), before]
  | apart left right apart ihLeft ihRight =>
    rw [visit_apart first left right apart, visit_apart second left right apart,
      ihLeft (agree.mono (left_placeholderNames left right)),
      ihRight (agree.mono (right_placeholderNames left right))]
  | or branches ih =>
    rw [visit, visit, visitBranches_agree branches]
    intro branch member
    exact ih branch member
      (agree.mono (placeholderNames_mono (nodes_branch_subset branches branch member)))
  | group child ih =>
    rw [visit, visit, ih (agree.mono (placeholderNames_mono (nodes_group_subset child)))]

theorem compilePath_agree (pattern : Pattern)
    (agree : Names.AgreeOn pattern.placeholderNames first second) :
    pattern.compilePath first = pattern.compilePath second := by
  rw [compilePath, compilePath, walk, walk, visit_agree pattern agree]

theorem compile_agree (pattern : Pattern)
    (agree : Names.AgreeOn pattern.placeholderNames first second) (params : Bool)
    (source : Option ParamSource) (action : Option Action) :
    (Compiler.mk ⟨first, params⟩ source action).compile pattern =
      (Compiler.mk ⟨second, params⟩ source action).compile pattern := by
  have path : pattern.compilePathLogged ⟨first, params⟩ =
      pattern.compilePathLogged ⟨second, params⟩ := by
    rw [compilePathLogged, compilePathLogged, walk, walk, visit_agree pattern agree]
  simp only [Compiler.compile, path, Compiler.queryNames]

/-- The ignored names matter only as far as they are names of placeholders of the pattern. So
neither their order nor a repetition matters, nor a name that the pattern does not have, nor one
that still carries a mark, since no placeholder does. -/
theorem compilePath_ignores (pattern : Pattern) :
    (∀ first second : Names, Names.AgreeOn pattern.placeholderNames first second →
      pattern.compilePath first = pattern.compilePath second ∧
      ∀ params source action, (Compiler.mk ⟨first, params⟩ source action).compile pattern =
        (Compiler.mk ⟨second, params⟩ source action).compile pattern) ∧
    (∀ names others : List String, (∀ name, name ∈ names ↔ name ∈ others) →
      pattern.compilePath (.ofList names) = pattern.compilePath (.ofList others)) ∧
    ∀ (before after : List String) (name : String),
      name ∉ pattern.placeholderNames ∨ '*' ∈ name.toList ∨ ':' ∈ name.toList →
      pattern.compilePath (.ofList (before ++ name :: after)) =
        pattern.compilePath (.ofList (before ++ after)) := by
  refine ⟨?_, ?_, ?_⟩
  · intro first second agree
    exact ⟨compilePath_agree pattern agree, compile_agree pattern agree⟩
  · intro names others same
    apply compilePath_agree
    intro name _
    rw [Names.mem_ofList, Names.mem_ofList, same]
  · intro before after name irrelevant
    have absent : name ∉ pattern.placeholderNames := by
      intro member
      have unmarked := placeholderNames_unmarked pattern name member
      rcases irrelevant with other | star | colon
      · exact other member
      · exact unmarked.1 star
      · exact unmarked.2 colon
    apply compilePath_agree
    intro other member
    have different : other ≠ name := fun same => absent (same ▸ member)
    rw [Names.mem_ofList, Names.mem_ofList]
    simp [different]

/-- As in `/*a:b/:id`, where the star has `ab` as its name. -/
def joinedTail : Pattern :=
  cat slash (cat (star (cat (symbol "*a") (symbol ":b"))) (cat slash (symbol ":id")))

theorem compilePath_ignores_joinedTail :
    Names.AgreeOn joinedTail.placeholderNames (.ofList [":id", "ab"]) (.ofList ["lang", "ab"]) ∧
    joinedTail.compilePath (.ofList ["lang", "ab"]) = .ok "/\x7bid\x7d" ∧
    joinedTail.compilePath (.ofList [":id", "ab"]) = .ok "/\x7bid\x7d" ∧
    joinedTail.compilePath (.ofList ["ab", "lang", "ab"]) = .ok "/\x7bid\x7d" ∧
    joinedTail.compilePath (.ofList ["lang", ":id", "ab"]) = .ok "/\x7bid\x7d" := by
  obtain ⟨agreeing, reordered, irrelevant⟩ := compilePath_ignores joinedTail
  have agree : Names.AgreeOn joinedTail.placeholderNames (.ofList [":id", "ab"])
      (.ofList ["lang", "ab"]) := by
    unfold Names.AgreeOn
    decide
  have compiled : joinedTail.compilePath (.ofList ["lang", "ab"]) = .ok "/\x7bid\x7d" := by decide
  have same : ∀ name, name ∈ ["ab", "lang", "ab"] ↔ name ∈ ["lang", "ab"] := by simp
  refine ⟨agree, compiled, ?_, ?_, ?_⟩
  · rw [(agreeing _ _ agree).1, compiled]
  · rw [reordered _ _ same, compiled]
  · have marked := irrelevant ["lang"] ["ab"] ":id" (Or.inr (Or.inr (by decide)))
    exact marked.trans compiled

end Pattern

end RouteTemplate
