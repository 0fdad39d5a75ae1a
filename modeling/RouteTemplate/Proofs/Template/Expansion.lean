import RouteTemplate.Proofs.Template.Reading

namespace RouteTemplate

abbrev Binding := String → Option String

def isUnreserved (c : Char) : Bool := c.isAlphanum || c == '-' || c == '.' || c == '_' || c == '~'

def hexDigit (digit : Nat) : Char := digit.digitChar.toUpper

def percentEncoded (byte : UInt8) : List Char :=
  ['%', hexDigit (byte.toNat / 16), hexDigit (byte.toNat % 16)]

def encoded (value : String) : List Char :=
  value.toList.flatMap fun c =>
    if isUnreserved c then [c] else (String.utf8EncodeChar c).flatMap percentEncoded

def Operator.lead : Operator → List Char
  | value => []
  | carrying separator => [separator.char]
  | segments => ['/']

/-- An expression whose name has no value gives nothing at all. -/
def Piece.expand (binding : Binding) : Piece → List Char
  | plain c => [c]
  | expression operator name =>
    match binding name with
    | none => []
    | some value => operator.lead ++ encoded value

def expanded (binding : Binding) (pieces : List Piece) : List Char :=
  pieces.flatMap (Piece.expand binding)

def expand? (binding : Binding) (template : String) : Option String :=
  (pieces? template).map fun pieces => String.ofList (expanded binding pieces)

namespace Pattern

def segmentName? : Pattern → Option String
  | cat slash (symbol name) => some (undecorated name)
  | cat dot (symbol name) => some (undecorated name)
  | cat slash (star (symbol name)) => some (undecorated name)
  | _ => none

mutual

/-- The names that stand outside the optional segments. -/
def required : Pattern → List String
  | literal _ => []
  | slash => []
  | dot => []
  | symbol name => [undecorated name]
  | star child => required child
  | cat left right => required left ++ required right
  | or branches => requiredBranches branches
  | group child => if (segmentName? child).isSome then [] else required child

def requiredBranches : List Pattern → List String
  | [] => []
  | branch :: others => required branch ++ requiredBranches others

end

mutual

/-- The text of the pattern with the values in place of the names, and without the optional
segments that have no value. Alternatives follow one another, as they do in a template. -/
def filled (binding : Binding) : Pattern → String
  | literal text => text
  | slash => "/"
  | dot => "."
  | symbol name => (binding (undecorated name)).getD ""
  | star child => filled binding child
  | cat left right => filled binding left ++ filled binding right
  | or branches => filledBranches binding branches
  | group child =>
    if (segmentName? child).any fun name => (binding name).isNone then "" else filled binding child

def filledBranches (binding : Binding) : List Pattern → String
  | [] => ""
  | branch :: others => filled binding branch ++ filledBranches binding others

end

def trims : Pattern → Bool
  | cat (cat _ _) (star _) => true
  | _ => false

/-- The patterns whose text is kept in their templates. -/
structure Faithful (ignored : Names) (pattern : Pattern) : Prop where
  readable : pattern.Readable
  untrimmed : ∀ node ∈ pattern.nodes, node.trims = false
  kept : ∀ name ∈ pattern.names, ignored.contains name = false

theorem Faithful.part {ignored : Names} {pattern part : Pattern}
    (faithful : pattern.Faithful ignored) (below : part.nodes ⊆ pattern.nodes) :
    part.Faithful ignored where
  readable := faithful.readable.part below
  untrimmed node member := faithful.untrimmed node (below member)
  kept name member := faithful.kept name (List.filterMap_subset name? below member)

end Pattern

def Binding.Unreserved (binding : Binding) : Prop :=
  ∀ name value, binding name = some value → ∀ c ∈ value.toList, isUnreserved c = true

theorem encoded_unreserved (value : String)
    (unreserved : ∀ c ∈ value.toList, isUnreserved c = true) : encoded value = value.toList := by
  have each : ∀ c ∈ value.toList, (if isUnreserved c then [c]
      else (String.utf8EncodeChar c).flatMap percentEncoded) = [c] :=
    fun c member => if_pos (unreserved c member)
  rw [encoded, List.flatMap_congr each]
  exact List.flatMap_singleton' _

theorem expanded_append (binding : Binding) (first second : List Piece) :
    expanded binding (first ++ second) = expanded binding first ++ expanded binding second :=
  List.flatMap_append

def Form.lead : Form → List Char
  | bare => []
  | after separator => [separator.char]
  | carrying separator => [separator.char]
  | segments => ['/']

section

variable (ignored : Names) (binding : Binding) (name : String) (form : Form)

theorem expanded_bound (unreserved : binding.Unreserved)
    (kept : ignored.contains (undecorated name) = false)
    (bound : (binding (undecorated name)).isSome = true) :
    expanded binding (placeholderPieces ignored name form) =
      form.lead ++ ((binding (undecorated name)).getD "").toList := by
  obtain ⟨value, found⟩ := Option.isSome_iff_exists.mp bound
  have plain := encoded_unreserved value (unreserved _ value found)
  rw [placeholderPieces, kept, found, Option.getD_some]
  cases form <;>
    simp [Form.pieces, Form.lead, expanded, Piece.expand, Operator.lead, found, plain]

/-- Where the separator stands inside the braces, it goes away with the value. -/
theorem expanded_absent (inside : ∀ separator, form ≠ .after separator)
    (absent : binding (undecorated name) = none) :
    expanded binding (placeholderPieces ignored name form) = [] := by
  unfold placeholderPieces
  split
  · rfl
  · cases form with
    | after separator => exact absurd rfl (inside separator)
    | _ => simp [Form.pieces, expanded, Piece.expand, absent]

end

namespace Pattern

variable (ignored : Names) (binding : Binding)

theorem segmentName?_eq_some (child : Pattern) (name : String)
    (segment : segmentName? child = some name) :
    ∃ inner form, name = undecorated inner ∧ (∀ separator, form ≠ Form.after separator) ∧
      name ∈ child.names ∧
      pieces ignored .group child = placeholderPieces ignored inner form ∧
      (filled binding child).toList = form.lead ++ ((binding name).getD "").toList := by
  fun_cases segmentName? child with
  | case1 inner =>
    obtain rfl := Option.some.inj segment
    refine ⟨inner, .carrying .slash, rfl, by simp, List.mem_cons_self, rfl, ?_⟩
    simp [filled, Form.lead, Separator.char]
  | case2 inner =>
    obtain rfl := Option.some.inj segment
    refine ⟨inner, .carrying .dot, rfl, by simp, List.mem_cons_self, rfl, ?_⟩
    simp [filled, Form.lead, Separator.char]
  | case3 inner =>
    obtain rfl := Option.some.inj segment
    refine ⟨inner, .segments, rfl, by simp, List.mem_cons_self, rfl, ?_⟩
    simp [filled, Form.lead]
  | case4 => simp_all [segmentName?]

theorem expanded_segment (child : Pattern) (name : String) (unreserved : binding.Unreserved)
    (kept : ∀ name ∈ child.names, ignored.contains name = false)
    (segment : segmentName? child = some name) :
    expanded binding (pieces ignored .group child) =
      (if (binding name).isNone then "" else filled binding child).toList := by
  obtain ⟨inner, form, rfl, inside, member, pieces, text⟩ :=
    segmentName?_eq_some ignored binding child name segment
  rw [pieces]
  cases found : binding (undecorated inner) with
  | none => exact expanded_absent ignored binding inner form inside found
  | some value =>
    rw [expanded_bound ignored binding inner form unreserved (kept _ member) (by rw [found]; rfl)]
    exact text.symm

theorem pieces_group (child : Pattern) (segment : segmentName? child = none) :
    pieces ignored .group child = pieces ignored Context.group.within child := by
  cases child using joint_induction with
  | separated separator name => cases separator <;> cases segment
  | apart left right apart =>
    rw [pieces_apart ignored _ left right apart, pieces_apart ignored _ left right apart]
    rfl
  | _ => rfl

theorem expanded_branches (context : Context) (branches : List Pattern)
    (below : ∀ branch ∈ branches,
      expanded binding (pieces ignored context branch) = (filled binding branch).toList) :
    expanded binding (branchPieces ignored context branches) =
      (filledBranches binding branches).toList := by
  induction branches with
  | nil => rfl
  | cons branch others ih =>
    rw [branchPieces, expanded_append, filledBranches, String.toList_append,
      below branch List.mem_cons_self,
      ih fun other member => below other (List.mem_cons_of_mem branch member)]

theorem requiredBranches_eq_flatMap (branches : List Pattern) :
    requiredBranches branches = branches.flatMap required := by
  induction branches with
  | nil => rfl
  | cons branch others ih => rw [requiredBranches, ih, List.flatMap_cons]

theorem expanded_pieces (unreserved : binding.Unreserved) (pattern : Pattern) (context : Context)
    (outside : context.fillsGroup = false) (faithful : pattern.Faithful ignored)
    (bound : ∀ name ∈ pattern.required, (binding name).isSome = true) :
    expanded binding (pieces ignored context pattern) = (filled binding pattern).toList := by
  induction pattern using joint_induction generalizing context with
  | literal text => simp [pieces, expanded, List.flatMap_map, Piece.expand, filled]
  | slash => simp [pieces, expanded, Piece.expand, filled]
  | dot => simp [pieces, expanded, Piece.expand, filled]
  | symbol name =>
    have kept := faithful.kept _ List.mem_cons_self
    exact expanded_bound ignored binding name .bare unreserved kept (bound _ List.mem_cons_self)
  | star child ih => exact ih context.within rfl (faithful.part (nodes_star_subset child)) bound
  | separated separator name =>
    have kept := (faithful.part (nodes_right_subset _ _)).kept _ List.mem_cons_self
    have present : (binding (undecorated name)).isSome = true := by
      apply bound
      cases separator <;> exact List.mem_cons_self
    rw [pieces_separated, Context.form, outside, if_neg Bool.false_ne_true,
      expanded_bound ignored binding name _ unreserved kept present]
    cases separator <;> simp [filled, Form.lead, Separator.char, Separator.pattern]
  | splat child =>
    obtain ⟨name, rfl, word⟩ := (faithful.readable.part (nodes_right_subset _ _)).starred
    have kept := (faithful.part (nodes_right_subset _ _)).kept _ List.mem_cons_self
    have present := bound (undecorated name) List.mem_cons_self
    show expanded binding (placeholderPieces ignored name .segments) = _
    rw [expanded_bound ignored binding name .segments unreserved kept present]
    simp [filled, Form.lead]
  | splatThen child rest ih =>
    have following := faithful.part (nodes_right_subset _ _)
    obtain ⟨name, rfl, word⟩ := (following.readable.part (nodes_left_subset _ _)).starred
    have kept := following.kept _ List.mem_cons_self
    have present := bound (undecorated name) List.mem_cons_self
    have tail := ih context.within rfl (following.part (nodes_right_subset _ _))
      fun name member => bound name (List.mem_cons_of_mem _ member)
    rw [pieces, expanded_append, tail, text,
      expanded_bound ignored binding name .segments unreserved kept present]
    simp [filled, Form.lead]
  | thenSplat first second child ih => cases faithful.untrimmed _ List.mem_cons_self
  | apart left right apart ihLeft ihRight =>
    have leading := ihLeft context.within rfl (faithful.part (nodes_left_subset _ _))
      fun name member => bound name (List.mem_append_left _ member)
    have following := ihRight context.within rfl (faithful.part (nodes_right_subset _ _))
      fun name member => bound name (List.mem_append_right _ member)
    rw [pieces_apart ignored context left right apart, expanded_append, leading, following,
      filled, String.toList_append]
  | or branches ih =>
    refine expanded_branches ignored binding context.within branches fun branch member => ?_
    refine ih branch member context.within rfl
      (faithful.part (nodes_branch_subset branches branch member)) fun name inBranch => ?_
    apply bound
    rw [required, requiredBranches_eq_flatMap]
    exact List.mem_flatMap.mpr ⟨branch, member, inBranch⟩
  | group child ih =>
    have inner := faithful.part (nodes_group_subset child)
    rw [pieces, filled]
    cases segment : segmentName? child with
    | some name =>
      exact expanded_segment ignored binding child name unreserved inner.kept segment
    | none =>
      rw [pieces_group ignored child segment]
      refine ih Context.group.within rfl inner fun name member => bound name ?_
      rw [required, segment]
      exact member

/-- A template keeps the meaning of its pattern: filled with values, it gives the text of the
pattern with these values, from which only the optional segments without a value are missing. -/
theorem compilePath_expands (pattern : Pattern) (template : String)
    (faithful : pattern.Faithful ignored) (unreserved : binding.Unreserved)
    (bound : ∀ name ∈ pattern.required, (binding name).isSome = true)
    (compiled : pattern.compilePath ignored = .ok template) :
    expand? binding template = some (pattern.filled binding) := by
  have splits := splits_pieces ignored pattern template faithful.readable compiled
  rw [expand?, (pieces?_eq_some_iff template _).mpr splits, Option.map_some,
    expanded_pieces ignored binding unreserved pattern .root rfl faithful bound,
    String.ofList_toList]

/-- As in `/users/:id(/*tail)(.:format)`. -/
def optionalTail : Pattern :=
  cat slash
    (cat (literal "users")
      (cat (cat slash (symbol ":id"))
        (cat (group (cat slash (star (symbol "*tail")))) (group (cat dot (symbol ":format"))))))

def givenTail : Binding := fun name =>
  if name = "id" then some "7" else if name = "tail" then some "a-b" else none

theorem compilePath_expands_optionalTail :
    optionalTail.Faithful (.ofList ["lang"]) ∧ givenTail.Unreserved ∧
    (∀ name ∈ optionalTail.required, (givenTail name).isSome = true) ∧
    optionalTail.compilePath (.ofList ["lang"]) =
      .ok "/users/\x7bid\x7d\x7b/tail*\x7d\x7b.format\x7d" ∧
    expand? givenTail "/users/\x7bid\x7d\x7b/tail*\x7d\x7b.format\x7d" = some "/users/7/a-b" := by
  have faithful : optionalTail.Faithful (.ofList ["lang"]) :=
    ⟨by decide, by decide, by decide⟩
  have unreserved : givenTail.Unreserved := by
    intro name value found
    unfold givenTail at found
    split at found
    · obtain rfl := Option.some.inj found
      exact List.all_eq_true.mp rfl
    · split at found
      · obtain rfl := Option.some.inj found
        exact List.all_eq_true.mp rfl
      · cases found
  have bound : ∀ name ∈ optionalTail.required, (givenTail name).isSome = true := by decide
  have compiled : optionalTail.compilePath (.ofList ["lang"]) =
      .ok "/users/\x7bid\x7d\x7b/tail*\x7d\x7b.format\x7d" := by decide +kernel
  refine ⟨faithful, unreserved, bound, compiled, ?_⟩
  rw [compilePath_expands _ givenTail _ _ faithful unreserved bound compiled]
  decide

end Pattern

end RouteTemplate
