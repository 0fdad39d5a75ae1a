import Mathlib.Data.List.DropRight
import RouteTemplate.Proofs.Pattern.Nodes
import RouteTemplate.Proofs.Template.Piece
import RouteTemplate.Proofs.Template.Rendering

namespace RouteTemplate

def Form.pieces (name : String) : Form → List Piece
  | bare => [.expression .value name]
  | after separator => [.plain separator.char, .expression .value name]
  | carrying separator => [.expression (.carrying separator) name]
  | segments => [.expression .segments name]

def placeholderPieces (ignored : Names) (name : String) (form : Form) : List Piece :=
  if ignored.contains (undecorated name) then [] else form.pieces (undecorated name)

def trimmed (pieces : List Piece) : List Piece := pieces.rdropWhile (· == .plain '/')

namespace Pattern

mutual

def pieces (ignored : Names) (context : Context) : Pattern → List Piece
  | literal text => text.toList.map .plain
  | slash => [.plain '/']
  | dot => [.plain '.']
  | symbol name => placeholderPieces ignored name .bare
  | star child => pieces ignored context.within child
  | cat left right =>
    match left, right with
    | dot, symbol name => placeholderPieces ignored name (context.form .dot)
    | slash, symbol name => placeholderPieces ignored name (context.form .slash)
    | slash, star child => placeholderPieces ignored child.text .segments
    | slash, cat (star child) rest =>
      placeholderPieces ignored child.text .segments ++ pieces ignored context.within rest
    | cat first second, star child =>
      trimmed (pieces ignored context.within (cat first second)) ++
        placeholderPieces ignored child.text .segments
    | left, right => pieces ignored context.within left ++ pieces ignored context.within right
  | or branches => branchPieces ignored context.within branches
  | group child => pieces ignored .group child

def branchPieces (ignored : Names) (context : Context) : List Pattern → List Piece
  | [] => []
  | branch :: others => pieces ignored context branch ++ branchPieces ignored context others

end

theorem branchPieces_eq_flatMap (ignored : Names) (context : Context) (branches : List Pattern) :
    branchPieces ignored context branches = branches.flatMap (pieces ignored context) := by
  induction branches with
  | nil => rfl
  | cons branch others ih => rw [branchPieces, ih, List.flatMap_cons]

theorem pieces_separated (ignored : Names) (context : Context) (separator : Separator)
    (name : String) :
    pieces ignored context (cat separator.pattern (symbol name)) =
      placeholderPieces ignored name (context.form separator) := by
  cases separator <;> simp only [Separator.pattern, pieces]

theorem pieces_apart (ignored : Names) (context : Context) (left right : Pattern)
    (apart : Apart left right) :
    pieces ignored context (cat left right) =
      pieces ignored context.within left ++ pieces ignored context.within right := by
  rw [pieces] <;> (intros; subst_vars; exact apart)

end Pattern

theorem written_append (first second : List Piece) :
    written (first ++ second) = written first ++ written second := List.flatMap_append

theorem write_eq_written (name : String) (form : Form) :
    (form.write name).toList = written (form.pieces name) := by
  cases form with
  | bare => simp [Form.write, Form.pieces, written, Piece.chars, Operator.body]
  | after separator =>
    cases separator <;>
      simp [Form.write, Form.pieces, written, Piece.chars, Operator.body, Separator.char,
        Separator.text]
  | carrying separator =>
    cases separator <;>
      simp [Form.write, Form.pieces, written, Piece.chars, Operator.body, Separator.char,
        Separator.text]
  | segments => simp [Form.write, Form.pieces, written, Piece.chars, Operator.body]

theorem placeholder_eq_written (ignored : Names) (name : String) (form : Form) :
    (placeholder ignored name form).toList = written (placeholderPieces ignored name form) := by
  unfold placeholder placeholderPieces
  split
  · rfl
  · exact write_eq_written (undecorated name) form

theorem written_trimmed (pieces : List Piece) :
    written (trimmed pieces) = (written pieces).rdropWhile (· == '/') := by
  induction pieces using List.reverseRecOn with
  | nil => rfl
  | append_singleton pieces piece ih =>
    rw [written_append]
    cases piece with
    | plain c =>
      have single : written [.plain c] = [c] := rfl
      rw [trimmed, single]
      by_cases slash : c = '/'
      · rw [List.rdropWhile_concat_pos _ _ _ (by simp [slash]),
          List.rdropWhile_concat_pos _ _ _ (by simp [slash])]
        exact ih
      · rw [List.rdropWhile_concat_neg _ _ _ (by simp [slash]),
          List.rdropWhile_concat_neg _ _ _ (by simp [slash]), written_append, single]
    | expression operator name =>
      -- The text ends in a brace, which is no slash.
      have ends : written [.expression operator name] =
          ('\x7b' :: operator.body name) ++ ['\x7d'] := List.flatMap_singleton ..
      rw [trimmed, List.rdropWhile_concat_neg _ _ _ (by simp), written_append, ends,
        ← List.append_assoc, List.rdropWhile_concat_neg _ _ _ (by decide)]

theorem trimSlashes_eq_written (text : String) (pieces : List Piece)
    (same : text.toList = written pieces) :
    (trimSlashes text).toList = written (trimmed pieces) := by
  rw [written_trimmed, ← same, trimSlashes, String.toList_ofList]
  rfl

def Writes (pieces : List Piece) : Except CompileError String → Prop
  | .ok template => template.toList = written pieces
  | .error _ => True

theorem writes_map (pieces changed : List Piece) (f : String → String)
    (outcome : Except CompileError String)
    (change : ∀ text, text.toList = written pieces → (f text).toList = written changed)
    (writes : Writes pieces outcome) : Writes changed (do return f (← outcome)) := by
  cases outcome with
  | ok text => exact change text writes
  | error error => trivial

theorem writes_both (leadingPieces followingPieces : List Piece)
    (leading following : Except CompileError String)
    (writesLeading : Writes leadingPieces leading)
    (writesFollowing : Writes followingPieces following) :
    Writes (leadingPieces ++ followingPieces) (do return (← leading) ++ (← following)) := by
  cases leading with
  | error error => trivial
  | ok leadingText =>
    cases following with
    | error error => trivial
    | ok followingText =>
      have first : leadingText.toList = written leadingPieces := writesLeading
      have second : followingText.toList = written followingPieces := writesFollowing
      show (leadingText ++ followingText).toList = _
      rw [String.toList_append, written_append, first, second]

namespace Pattern

theorem writes_branches (ignored : Names) (context : Context) (branches : List Pattern)
    (below : ∀ branch ∈ branches,
      Writes (pieces ignored context branch) (render ignored context branch)) :
    Writes (branchPieces ignored context branches) (renderBranches ignored context branches) := by
  induction branches with
  | nil => rfl
  | cons branch others ih =>
    exact writes_both _ _ _ _ (below branch List.mem_cons_self)
      (ih fun other member => below other (List.mem_cons_of_mem branch member))

theorem writes_render (ignored : Names) (pattern : Pattern) (context : Context) :
    Writes (pieces ignored context pattern) (render ignored context pattern) := by
  induction pattern using joint_induction generalizing context with
  | literal text =>
    show text.toList = (text.toList.map Piece.plain).flatMap Piece.chars
    simp [List.flatMap_map, Piece.chars]
  | slash => rfl
  | dot => rfl
  | symbol name =>
    rw [render_symbol]
    exact placeholder_eq_written ignored name .bare
  | star child ih => exact ih context.within
  | separated separator name =>
    rw [render_separated, pieces_separated]
    exact placeholder_eq_written ignored name (context.form separator)
  | splat child =>
    rw [render_splat]
    exact placeholder_eq_written ignored child.text .segments
  | splatThen child rest ih =>
    rw [render_splatThen]
    refine writes_map _ _ _ _ (fun text same => ?_) (ih context.within)
    rw [String.toList_append, placeholder_eq_written, same, pieces, written_append]
  | thenSplat first second child ih =>
    rw [render_thenSplat]
    refine writes_map _ _ _ _ (fun text same => ?_) (ih context.within)
    rw [String.toList_append, placeholder_eq_written, trimSlashes_eq_written text _ same, pieces,
      written_append]
  | apart left right apart ihLeft ihRight =>
    rw [render_apart ignored context left right apart,
      pieces_apart ignored context left right apart]
    exact writes_both _ _ _ _ (ihLeft context.within) (ihRight context.within)
  | or branches ih =>
    exact writes_branches ignored context.within branches
      fun branch member => ih branch member context.within
  | group child ih =>
    rw [render]
    split
    · trivial
    · exact ih .group

theorem compilePath_eq_written (ignored : Names) (pattern : Pattern) (template : String)
    (compiled : pattern.compilePath ignored = .ok template) :
    template.toList = written (pattern.pieces ignored .root) := by
  have writes := writes_render ignored pattern .root
  rw [← compilePath_eq_render, compiled] at writes
  exact writes

/-- What a node has to be like for its template to be read back. -/
def Legible : Pattern → Prop
  | literal text => ∀ c ∈ text.toList, isBrace c = false
  | symbol name => IsWord (undecorated name)
  | star child => child.kind = .symbol
  | _ => True

instance : DecidablePred Legible
  | literal text => List.decidableBAll (isBrace · = false) text.toList
  | symbol name => inferInstanceAs (Decidable (IsWord (undecorated name)))
  | star child => inferInstanceAs (Decidable (child.kind = .symbol))
  | slash | dot | cat _ _ | or _ | group _ => isTrue trivial

def Readable (pattern : Pattern) : Prop := ∀ node ∈ pattern.nodes, node.Legible

instance (pattern : Pattern) : Decidable pattern.Readable :=
  inferInstanceAs (Decidable (∀ node ∈ pattern.nodes, node.Legible))

theorem Readable.part {pattern part : Pattern} (readable : pattern.Readable)
    (below : part.nodes ⊆ pattern.nodes) : part.Readable :=
  fun node member => readable node (below member)

theorem Readable.word {name : String} (readable : (symbol name).Readable) :
    IsWord (undecorated name) := readable (symbol name) List.mem_cons_self

theorem Readable.starred {child : Pattern} (readable : (star child).Readable) :
    ∃ name, child = symbol name ∧ IsWord (undecorated name) := by
  have kind : child.kind = .symbol := readable (star child) List.mem_cons_self
  cases child with
  | symbol name => exact ⟨name, rfl, (readable.part (nodes_star_subset _)).word⟩
  | _ => cases kind

end Pattern

theorem placeholderPieces_sound (ignored : Names) (name : String) (form : Form)
    (word : IsWord (undecorated name)) :
    ∀ piece ∈ placeholderPieces ignored name form, piece.Sound := by
  unfold placeholderPieces
  split
  · exact List.forall_mem_nil _
  · cases form with
    | bare => exact List.forall_mem_singleton.mpr word
    | after separator =>
      have plain : isBrace separator.char = false := by cases separator <;> rfl
      exact List.forall_mem_cons.mpr ⟨plain, List.forall_mem_singleton.mpr word⟩
    | carrying separator => exact List.forall_mem_singleton.mpr word
    | segments => exact List.forall_mem_singleton.mpr word

theorem placeholderPieces_names (ignored : Names) (name : String) (form : Form) :
    (placeholderPieces ignored name form).filterMap Piece.name? =
      [undecorated name].filter (!ignored.contains ·) := by
  unfold placeholderPieces
  cases known : ignored.contains (undecorated name) with
  | true => simp [known]
  | false => cases form <;> simp [known, Form.pieces, List.filterMap_cons, Piece.name?]

theorem trimmed_subset (pieces : List Piece) : trimmed pieces ⊆ pieces :=
  (List.rdropWhile_prefix _ pieces).subset

/-- Trimming stops at the last expression, so that it takes no name away. -/
theorem trimmed_names (pieces : List Piece) :
    (trimmed pieces).filterMap Piece.name? = pieces.filterMap Piece.name? := by
  induction pieces using List.reverseRecOn with
  | nil => rfl
  | append_singleton pieces piece ih =>
    rw [trimmed]
    by_cases slash : piece = .plain '/'
    · rw [List.rdropWhile_concat_pos _ _ _ (by simp [slash]), List.filterMap_append, slash]
      exact ih.trans (List.append_nil _).symm
    · rw [List.rdropWhile_concat_neg _ _ _ (by simp [slash])]

namespace Pattern

theorem pieces_sound (ignored : Names) (pattern : Pattern) (context : Context)
    (readable : pattern.Readable) : ∀ piece ∈ pattern.pieces ignored context, piece.Sound := by
  induction pattern using joint_induction generalizing context with
  | literal text =>
    intro piece member
    obtain ⟨c, inText, rfl⟩ := List.mem_map.mp member
    exact readable (literal text) List.mem_cons_self c inText
  | slash => exact List.forall_mem_singleton.mpr rfl
  | dot => exact List.forall_mem_singleton.mpr rfl
  | symbol name => exact placeholderPieces_sound ignored name .bare readable.word
  | star child ih => exact ih context.within (readable.part (nodes_star_subset child))
  | separated separator name =>
    have word := (readable.part (nodes_right_subset _ _)).word
    rw [pieces_separated]
    exact placeholderPieces_sound ignored name _ word
  | splat child =>
    obtain ⟨name, rfl, word⟩ := (readable.part (nodes_right_subset _ _)).starred
    exact placeholderPieces_sound ignored name .segments word
  | splatThen child rest ih =>
    have following := readable.part (nodes_right_subset _ _)
    obtain ⟨name, rfl, word⟩ := (following.part (nodes_left_subset _ _)).starred
    exact List.forall_mem_append.mpr ⟨placeholderPieces_sound ignored name .segments word,
      ih context.within (following.part (nodes_right_subset _ _))⟩
  | thenSplat first second child ih =>
    obtain ⟨name, rfl, word⟩ := (readable.part (nodes_right_subset _ _)).starred
    have leading := ih context.within (readable.part (nodes_left_subset _ _))
    exact List.forall_mem_append.mpr
      ⟨fun piece member => leading piece (trimmed_subset _ member),
        placeholderPieces_sound ignored name .segments word⟩
  | apart left right apart ihLeft ihRight =>
    rw [pieces_apart ignored context left right apart]
    exact List.forall_mem_append.mpr
      ⟨ihLeft context.within (readable.part (nodes_left_subset _ _)),
        ihRight context.within (readable.part (nodes_right_subset _ _))⟩
  | or branches ih =>
    rw [pieces, branchPieces_eq_flatMap]
    intro piece member
    obtain ⟨branch, inBranches, inBranch⟩ := List.mem_flatMap.mp member
    exact ih branch inBranches context.within
      (readable.part (nodes_branch_subset branches branch inBranches)) piece inBranch
  | group child ih => exact ih .group (readable.part (nodes_group_subset child))

theorem pieces_names (ignored : Names) (pattern : Pattern) (context : Context)
    (readable : pattern.Readable) :
    (pattern.pieces ignored context).filterMap Piece.name? =
      pattern.names.filter (!ignored.contains ·) := by
  induction pattern using joint_induction generalizing context with
  | literal text =>
    show (text.toList.map Piece.plain).filterMap Piece.name? = []
    rw [List.filterMap_map]
    exact List.filterMap_eq_nil_iff.mpr fun c member => rfl
  | slash => rfl
  | dot => rfl
  | symbol name => exact placeholderPieces_names ignored name .bare
  | star child ih =>
    rw [names_star]
    exact ih context.within (readable.part (nodes_star_subset child))
  | separated separator name =>
    rw [pieces_separated, placeholderPieces_names, names_cat]
    cases separator <;> rfl
  | splat child =>
    obtain ⟨name, rfl, word⟩ := (readable.part (nodes_right_subset _ _)).starred
    exact placeholderPieces_names ignored name .segments
  | splatThen child rest ih =>
    have following := readable.part (nodes_right_subset _ _)
    obtain ⟨name, rfl, word⟩ := (following.part (nodes_left_subset _ _)).starred
    rw [pieces, List.filterMap_append, ih _ (following.part (nodes_right_subset _ _)), names_cat,
      names_cat, ← List.append_assoc, List.filter_append]
    exact congrArg (· ++ _) (placeholderPieces_names ignored name .segments)
  | thenSplat first second child ih =>
    obtain ⟨name, rfl, word⟩ := (readable.part (nodes_right_subset _ _)).starred
    rw [pieces, List.filterMap_append, trimmed_names, ih _ (readable.part (nodes_left_subset _ _)),
      names_cat (cat first second), List.filter_append]
    exact congrArg (_ ++ ·) (placeholderPieces_names ignored name .segments)
  | apart left right apart ihLeft ihRight =>
    rw [pieces_apart ignored context left right apart, List.filterMap_append,
      ihLeft _ (readable.part (nodes_left_subset _ _)),
      ihRight _ (readable.part (nodes_right_subset _ _)), names_cat, List.filter_append]
  | or branches ih =>
    rw [pieces, branchPieces_eq_flatMap, List.filterMap_flatMap, names_or, List.filter_flatMap]
    refine List.flatMap_congr fun branch member => ?_
    exact ih branch member context.within
      (readable.part (nodes_branch_subset branches branch member))
  | group child ih =>
    rw [names_group]
    exact ih .group (readable.part (nodes_group_subset child))

theorem splits_pieces (ignored : Names) (pattern : Pattern) (template : String)
    (readable : pattern.Readable) (compiled : pattern.compilePath ignored = .ok template) :
    Splits template (pattern.pieces ignored .root) :=
  ⟨pieces_sound ignored pattern .root readable,
    (compilePath_eq_written ignored pattern template compiled).symm⟩

/-- A template splits into text and expressions in one way, and the names of the expressions are
those of the pattern in order, without the ignored ones. -/
theorem compilePath_splits (ignored : Names) (pattern : Pattern) (template : String)
    (readable : pattern.Readable) (compiled : pattern.compilePath ignored = .ok template) :
    ∃ pieces, Splits template pieces ∧ (∀ others, Splits template others → others = pieces) ∧
      pieces.filterMap Piece.name? = pattern.names.filter (!ignored.contains ·) := by
  have splits := splits_pieces ignored pattern template readable compiled
  refine ⟨_, splits, fun others splitsToo => ?_, pieces_names ignored pattern .root readable⟩
  have read := (pieces?_eq_some_iff template _).mpr splits
  have readToo := (pieces?_eq_some_iff template _).mpr splitsToo
  exact Option.some.inj (readToo.symm.trans read)

def crowdedRoute : Pattern :=
  cat
    (cat (or [literal "v", cat slash (cat (symbol ":lang") (cat slash (symbol ":id")))])
      (cat (group (cat dot (symbol ":page"))) (cat slash slash)))
    (star (symbol "*rest"))

theorem compilePath_splits_crowded :
    crowdedRoute.Readable ∧
    crowdedRoute.compilePath (.ofList ["lang"]) = .ok "v//\x7bid\x7d\x7b.page\x7d\x7b/rest*\x7d" ∧
    ∃ pieces, Splits "v//\x7bid\x7d\x7b.page\x7d\x7b/rest*\x7d" pieces ∧
      (∀ others, Splits "v//\x7bid\x7d\x7b.page\x7d\x7b/rest*\x7d" others → others = pieces) ∧
      pieces.filterMap Piece.name? = ["id", "page", "rest"] := by
  have readable : crowdedRoute.Readable := by decide
  have compiled : crowdedRoute.compilePath (.ofList ["lang"]) =
      .ok "v//\x7bid\x7d\x7b.page\x7d\x7b/rest*\x7d" := by decide +kernel
  exact ⟨readable, compiled, compilePath_splits _ _ _ readable compiled⟩

end Pattern

end RouteTemplate
