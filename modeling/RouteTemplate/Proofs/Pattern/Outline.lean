import RouteTemplate.Pattern.Basic
import RouteTemplate.Proofs.Template.Tour
import RouteTemplate.Proofs.Text.Quoted

/-!
The outline of a pattern has one line for each node, and the pattern can be told from it. A line
gives the level of its node by the spaces in front and the node, apart from what is below it, by its
label (`outlineLine_injective`, `eq_of_label`). What is below a node are the lines that follow as
long as they stand deeper (`outlineLines_injective`). Only a symbol can break a line, since its name
is shown as it is.
-/

namespace RouteTemplate

/-- The line of a node, two spaces further in for each node above it. -/
def Spot.line (spot : Spot) : String :=
  String.ofList (List.replicate (2 * spot.place.length) ' ') ++ spot.node.label

namespace Pattern

theorem outlineLines_eq (level : Nat) (pattern : Pattern) :
    outlineLines level pattern =
      outlineLine level pattern :: branchLines (level + 1) pattern.children := by
  cases pattern <;> simp [outlineLines, branchLines, children]

theorem branchLines_spots (parts : List Pattern) (level start : Nat)
    (below : ∀ part ∈ parts, outlineLines (level + 1) part =
      part.spots.map fun spot => outlineLine (level + 1 + spot.place.length) spot.node) :
    branchLines (level + 1) parts =
      (branchSpots start parts).map fun spot =>
        outlineLine (level + spot.place.length) spot.node := by
  induction parts generalizing start with
  | nil => rfl
  | cons part parts ih =>
    obtain ⟨head, tail⟩ := List.forall_mem_cons.mp below
    rw [branchLines, branchSpots, List.map_append, List.map_map, head, ih (start + 1) tail]
    congr 2
    funext spot
    simp [Spot.under, Nat.add_assoc, Nat.add_comm 1]

theorem outlineLines_spots (level : Nat) (pattern : Pattern) :
    outlineLines level pattern =
      pattern.spots.map fun spot => outlineLine (level + spot.place.length) spot.node := by
  induction pattern using children_induction generalizing level with
  | step pattern below =>
    rw [outlineLines_eq, spots_eq, List.map_cons]
    congr 1
    exact branchLines_spots pattern.children level 0 fun part member =>
      below part member (level + 1)

theorem outline_lines (pattern : Pattern) :
    pattern.outline = String.join (pattern.spots.map fun spot => spot.line ++ "\n") := by
  rw [outline, outlineLines_spots]
  congr 2
  funext spot
  rw [Nat.zero_add]
  rfl

theorem label_kind (pattern : Pattern) :
    pattern.label.toList.take 2 = pattern.kind.name.toList.take 2 := by
  cases pattern <;> simp [label, kind, Kind.name]

theorem kind_eq_of_label (pattern other : Pattern) (same : pattern.label = other.label) :
    pattern.kind = other.kind := by
  have names : pattern.kind.name.toList.take 2 = other.kind.name.toList.take 2 := by
    rw [← label_kind, ← label_kind, same]
  revert names
  cases pattern.kind <;> cases other.kind <;> decide

theorem eq_of_label (pattern other : Pattern) (same : pattern.label = other.label)
    (below : pattern.children = other.children) : pattern = other := by
  have kinds := kind_eq_of_label pattern other same
  cases pattern with
  | literal text =>
    cases other <;> cases kinds
    rw [label, label, String.append_right_inj] at same
    rw [Text.quoted_injective _ _ same]
  | symbol name =>
    cases other <;> cases kinds
    rw [label, label, String.append_right_inj] at same
    rw [same]
  | _ =>
    cases other <;> cases kinds
    all_goals
      cases below
      rfl

theorem label_front (pattern : Pattern) :
    ∃ c rest, pattern.label.toList = c :: rest ∧ c ≠ ' ' := by
  cases pattern <;> simp [label, kind, Kind.name]

theorem outlineLine_injective (level other : Nat) (pattern node : Pattern)
    (same : outlineLine level pattern = outlineLine other node) :
    level = other ∧ pattern.label = node.label := by
  obtain ⟨c, rest, shown, visible⟩ := label_front pattern
  obtain ⟨d, otherRest, shownOther, visibleOther⟩ := label_front node
  have inner : indentation level ++ pattern.label = indentation other ++ node.label :=
    (String.append_left_inj "\n").mp same
  have chars : List.replicate (2 * level) ' ' ++ c :: rest =
      List.replicate (2 * other) ' ' ++ d :: otherRest := by
    simpa [indentation, shown, shownOther] using congrArg String.toList inner
  have spaces := congrArg (List.takeWhile (· == ' ')) chars
  have cut (count : Nat) (first : Char) (others : List Char) (visible : first ≠ ' ') :
      (List.replicate count ' ' ++ first :: others).takeWhile (· == ' ') =
        List.replicate count ' ' := by
    simp [visible]
  rw [cut _ _ _ visible, cut _ _ _ visibleOther, List.replicate_inj] at spaces
  have level_eq : level = other := by omega
  rw [level_eq, String.append_right_inj] at inner
  exact ⟨level_eq, inner⟩

def Surfaces (level : Nat) (lines : List String) : Prop :=
  ∀ line ∈ lines.head?, ∃ upper node, upper ≤ level ∧ line = outlineLine upper node

theorem surfaces_lines (level : Nat) (pattern : Pattern) (rest : List String) :
    Surfaces level (outlineLines level pattern ++ rest) := by
  intro line first
  rw [outlineLines_eq] at first
  cases first
  exact ⟨level, pattern, Nat.le_refl level, rfl⟩

theorem surfaces_branches (level : Nat) (parts : List Pattern) (rest : List String)
    (ended : Surfaces level rest) :
    Surfaces (level + 1) (branchLines (level + 1) parts ++ rest) := by
  cases parts with
  | nil =>
    intro line first
    obtain ⟨upper, node, bounded, same⟩ := ended line first
    exact ⟨upper, node, Nat.le_succ_of_le bounded, same⟩
  | cons part parts =>
    rw [branchLines, List.append_assoc]
    exact surfaces_lines (level + 1) part _

theorem not_surfaces_deeper (level : Nat) (pattern : Pattern) (rest : List String) :
    ¬ Surfaces level (outlineLines (level + 1) pattern ++ rest) := by
  intro surfaces
  rw [outlineLines_eq] at surfaces
  obtain ⟨upper, node, bounded, same⟩ := surfaces _ rfl
  have deeper := (outlineLine_injective _ _ _ _ same).1
  omega

/-- Whether the pattern can be told from its lines, at any level and whatever follows them. -/
def Told (pattern : Pattern) : Prop :=
  ∀ level other rest otherRest, Surfaces level rest → Surfaces level otherRest →
    outlineLines level pattern ++ rest = outlineLines level other ++ otherRest →
    pattern = other ∧ rest = otherRest

theorem branchLines_injective (level : Nat) (parts others : List Pattern)
    (rest otherRest : List String) (told : ∀ part ∈ parts, part.Told)
    (ended : Surfaces level rest) (otherEnded : Surfaces level otherRest)
    (same : branchLines (level + 1) parts ++ rest = branchLines (level + 1) others ++ otherRest) :
    parts = others ∧ rest = otherRest := by
  induction parts generalizing others with
  | nil =>
    cases others with
    | nil => exact ⟨rfl, same⟩
    | cons other others =>
      rw [branchLines, branchLines, List.append_assoc] at same
      rw [show rest = _ from same] at ended
      exact absurd ended (not_surfaces_deeper level other _)
  | cons part parts ih =>
    cases others with
    | nil =>
      rw [branchLines, branchLines, List.append_assoc] at same
      rw [show otherRest = _ from same.symm] at otherEnded
      exact absurd otherEnded (not_surfaces_deeper level part _)
    | cons other others =>
      obtain ⟨head, tail⟩ := List.forall_mem_cons.mp told
      rw [branchLines, branchLines, List.append_assoc, List.append_assoc] at same
      obtain ⟨rfl, following⟩ := head (level + 1) other _ _
        (surfaces_branches level parts rest ended)
        (surfaces_branches level others otherRest otherEnded) same
      obtain ⟨rfl, sameRest⟩ := ih others tail following
      exact ⟨rfl, sameRest⟩

theorem outlineLines_injective (pattern : Pattern) : pattern.Told := by
  induction pattern using children_induction with
  | step pattern told =>
    intro level other rest otherRest ended otherEnded same
    rw [outlineLines_eq, outlineLines_eq, List.cons_append, List.cons_append,
      List.cons.injEq] at same
    have label := (outlineLine_injective _ _ _ _ same.1).2
    obtain ⟨below, sameRest⟩ :=
      branchLines_injective level _ _ rest otherRest told ended otherEnded same.2
    exact ⟨eq_of_label pattern other label below, sameRest⟩

theorem lines_injective (first second : List (List Char)) (whole : ∀ line ∈ first, '\n' ∉ line)
    (wholeOther : ∀ line ∈ second, '\n' ∉ line)
    (same : first.flatMap (· ++ ['\n']) = second.flatMap (· ++ ['\n'])) : first = second := by
  have cut (line rest : List Char) (unbroken : '\n' ∉ line) :
      (line ++ '\n' :: rest).takeWhile (· ≠ '\n') = line := by
    rw [List.takeWhile_append_of_pos]
    · simp
    · exact fun c member => decide_eq_true fun newline => unbroken (newline ▸ member)
  induction first generalizing second with
  | nil =>
    cases second with
    | nil => rfl
    | cons line others => simp at same
  | cons line lines ih =>
    cases second with
    | nil => simp at same
    | cons other others =>
      obtain ⟨unbroken, tail⟩ := List.forall_mem_cons.mp whole
      obtain ⟨unbrokenOther, tailOther⟩ := List.forall_mem_cons.mp wholeOther
      simp only [List.flatMap_cons, List.append_assoc, List.singleton_append] at same
      have front := congrArg (List.takeWhile (· ≠ '\n')) same
      rw [cut line _ unbroken, cut other _ unbrokenOther] at front
      rw [front, List.append_cancel_left_eq, List.cons.injEq] at same
      rw [front, ih others tail tailOther same.2]

/-- Whether no symbol has a name that breaks a line. -/
def Unbroken (pattern : Pattern) : Prop :=
  ∀ spot ∈ pattern.spots, spot.node.kind = .symbol → '\n' ∉ spot.node.text.toList

instance (pattern : Pattern) : Decidable pattern.Unbroken :=
  inferInstanceAs (Decidable (∀ spot ∈ pattern.spots, _ → _))

theorem newline_not_mem_label (pattern : Pattern)
    (unbroken : pattern.kind = .symbol → '\n' ∉ pattern.text.toList) :
    '\n' ∉ pattern.label.toList := by
  cases pattern with
  | literal text => simp [label, Text.newline_not_mem_quoted]
  | symbol name => simpa [label, text, kind] using unbroken
  | _ => simp [label, kind, Kind.name]

theorem newline_not_mem_line (pattern : Pattern) (unbroken : pattern.Unbroken) :
    ∀ spot ∈ pattern.spots, '\n' ∉ spot.line.toList := by
  intro spot member
  have label := newline_not_mem_label spot.node (unbroken spot member)
  simp [Spot.line, label]

theorem outline_injective (pattern other : Pattern) (unbroken : pattern.Unbroken)
    (unbrokenOther : other.Unbroken) (same : pattern.outline = other.outline) :
    pattern = other := by
  have chars (pattern : Pattern) : pattern.outline.toList =
      (pattern.spots.map fun spot => spot.line.toList).flatMap (· ++ ['\n']) := by
    rw [outline_lines, String.toList_join, List.flatMap_map, List.flatMap_map]
    simp
  have whole (pattern : Pattern) (unbroken : pattern.Unbroken) :
      ∀ line ∈ pattern.spots.map fun spot => spot.line.toList, '\n' ∉ line := by
    simpa using newline_not_mem_line pattern unbroken
  have lines := lines_injective _ _ (whole pattern unbroken) (whole other unbrokenOther)
    (by rw [← chars, ← chars, same])
  have ended : Surfaces 0 [] := fun line first => by cases first
  refine (outlineLines_injective pattern 0 other [] [] ended ended ?_).1
  rw [List.append_nil, List.append_nil, outlineLines_spots, outlineLines_spots]
  have written := congrArg (List.map fun line => String.ofList line ++ "\n") lines
  simpa [Function.comp_def, Spot.line, outlineLine, indentation] using written

/-- The outline of a pattern has a line for each node, in the order of the nodes, and no two
patterns share an outline. Whatever the literals hold, each line is one; the names of symbols have
to be. -/
theorem outline_tells (pattern : Pattern) (unbroken : pattern.Unbroken) :
    pattern.outline = String.join (pattern.spots.map fun spot => spot.line ++ "\n") ∧
    (∀ spot ∈ pattern.spots, '\n' ∉ spot.line.toList) ∧
    (∀ spot, spot ∈ pattern.spots ↔ pattern.node? spot.place = some spot.node) ∧
    pattern.spots.Pairwise Spot.Before ∧
    ∀ other : Pattern, other.Unbroken → pattern.outline = other.outline → pattern = other :=
  ⟨outline_lines pattern, newline_not_mem_line pattern unbroken, mem_spots pattern,
    spots_ordered pattern, fun other unbrokenOther same =>
      outline_injective pattern other unbroken unbrokenOther same⟩

theorem outline_tells_nesting :
    (cat (cat (literal "\n") dot) (symbol ":id")).Unbroken ∧
    (cat (literal "\n") (cat dot (symbol ":id"))).Unbroken ∧
    (cat (cat (literal "\n") dot) (symbol ":id")).outline =
      "Cat\n  Cat\n    Literal \"\\n\"\n    Dot\n  Symbol :id\n" ∧
    (cat (cat (literal "\n") dot) (symbol ":id")).outline ≠
      (cat (literal "\n") (cat dot (symbol ":id"))).outline := by
  have unbroken : (cat (cat (literal "\n") dot) (symbol ":id")).Unbroken := by decide
  have unbrokenOther : (cat (literal "\n") (cat dot (symbol ":id"))).Unbroken := by decide
  obtain ⟨lines, _, _, _, told⟩ := outline_tells _ unbroken
  refine ⟨unbroken, unbrokenOther, lines.trans (by decide), ?_⟩
  intro same
  cases told _ unbrokenOther same

example : (or [symbol "a\n  Slash"]).outline = (or [symbol "a", slash]).outline := by decide

end Pattern

end RouteTemplate
