import RouteTemplate.Template.Walk
import RouteTemplate.Pattern.Basic

namespace RouteTemplate.Pattern

mutual

def nodes : Pattern → List Pattern
  | literal text => [literal text]
  | slash => [slash]
  | dot => [dot]
  | symbol name => [symbol name]
  | star child => star child :: nodes child
  | cat left right => cat left right :: (nodes left ++ nodes right)
  | or branches => or branches :: branchNodes branches
  | group child => group child :: nodes child

def branchNodes : List Pattern → List Pattern
  | [] => []
  | branch :: others => nodes branch ++ branchNodes others

end

def name? : Pattern → Option String
  | symbol name => some (undecorated name)
  | _ => none

mutual

def letters : Pattern → List Char
  | literal text => text.toList
  | slash => ['/']
  | dot => ['.']
  | symbol name => name.toList
  | star child => letters child
  | cat left right => letters left ++ letters right
  | or branches => branchLetters branches
  | group child => '(' :: letters child ++ [')']

def branchLetters : List Pattern → List Char
  | [] => []
  | [branch] => letters branch
  | branch :: next :: others => letters branch ++ '|' :: branchLetters (next :: others)

end

def names (pattern : Pattern) : List String := pattern.nodes.filterMap name?

theorem branchNodes_eq_flatMap (branches : List Pattern) :
    branchNodes branches = branches.flatMap nodes := by
  induction branches with
  | nil => rfl
  | cons branch others ih => rw [branchNodes, ih, List.flatMap_cons]

mutual

theorem text_letters (pattern : Pattern) : pattern.text.toList = pattern.letters := by
  match pattern with
  | literal _ | slash | dot | symbol _ => rfl
  | star child => exact text_letters child
  | cat left right =>
    rw [text, letters, String.toList_append, text_letters left, text_letters right]
  | or branches => exact branches_letters branches
  | group child =>
    rw [text, letters, String.toList_append, String.toList_append, text_letters child]
    rfl

theorem branches_letters (branches : List Pattern) :
    ("|".intercalate (branchTexts branches)).toList = branchLetters branches := by
  match branches with
  | [] => rfl
  | [branch] =>
    have alone := text_letters branch
    simpa [branchTexts, branchLetters] using alone
  | branch :: next :: others =>
    have first := text_letters branch
    have following := branches_letters (next :: others)
    simpa [branchTexts, branchLetters, first] using following

end

theorem nodes_star_subset (child : Pattern) : child.nodes ⊆ (star child).nodes := by
  rw [nodes]
  exact List.subset_cons_self _ _

theorem nodes_left_subset (left right : Pattern) : left.nodes ⊆ (cat left right).nodes := by
  rw [nodes]
  exact List.Subset.trans (List.subset_append_left _ _) (List.subset_cons_self _ _)

theorem nodes_right_subset (left right : Pattern) : right.nodes ⊆ (cat left right).nodes := by
  rw [nodes]
  exact List.Subset.trans (List.subset_append_right _ _) (List.subset_cons_self _ _)

theorem nodes_branch_subset (branches : List Pattern) (branch : Pattern)
    (member : branch ∈ branches) : branch.nodes ⊆ (or branches).nodes := by
  intro node inBranch
  rw [nodes, branchNodes_eq_flatMap]
  exact List.mem_cons_of_mem _ (List.mem_flatMap.mpr ⟨branch, member, inBranch⟩)

theorem nodes_group_subset (child : Pattern) : child.nodes ⊆ (group child).nodes := by
  rw [nodes]
  exact List.subset_cons_self _ _

theorem names_star (child : Pattern) : (star child).names = child.names :=
  List.filterMap_cons_none rfl

theorem names_cat (left right : Pattern) : (cat left right).names = left.names ++ right.names :=
  (List.filterMap_cons_none rfl).trans List.filterMap_append

theorem names_or (branches : List Pattern) : (or branches).names = branches.flatMap names := by
  rw [names, nodes, branchNodes_eq_flatMap]
  exact (List.filterMap_cons_none rfl).trans List.filterMap_flatMap

theorem names_group (child : Pattern) : (group child).names = child.names :=
  List.filterMap_cons_none rfl

end RouteTemplate.Pattern
