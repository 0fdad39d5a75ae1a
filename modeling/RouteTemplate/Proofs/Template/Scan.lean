import RouteTemplate.Proofs.FirstFailure
import RouteTemplate.Proofs.Template.Rendering

namespace RouteTemplate.Pattern

inductive Portion where
  | splat (child : Pattern)
  | ending (separator : Separator) (name : String)
  | single (part : Pattern)

namespace Portion

def parts : Portion → List Pattern
  | splat child => [.slash, .star child]
  | ending separator name => [separator.pattern, .symbol name]
  | single part => [part]

def single? : Portion → Option Pattern
  | single part => some part
  | _ => none

def template (ignored : Names) : Portion → Except CompileError String
  | splat child =>
    .ok (if ignored.contains (undecorated child.text) then ""
      else "\x7b/" ++ undecorated child.text ++ "*\x7d")
  | ending separator name =>
    .ok (if ignored.contains (undecorated name) then ""
      else separator.text ++ "\x7b" ++ undecorated name ++ "\x7d")
  | single part => part.compilePath ignored

end Portion

def portions : List Pattern → List Portion
  | [] => []
  | slash :: star child :: parts => .splat child :: portions parts
  | [slash, symbol name] => [.ending .slash name]
  | [dot, symbol name] => [.ending .dot name]
  | part :: parts => .single part :: portions parts

def singles (parts : List Pattern) : List Pattern := (portions parts).filterMap Portion.single?

def scanned (ignored : Names) (parts : List Pattern) : Except CompileError String := do
  let texts ← (portions parts).mapM (Portion.template ignored)
  return String.join texts

theorem portions_parts (parts : List Pattern) : (portions parts).flatMap Portion.parts = parts := by
  fun_induction portions parts with
  | case1 => rfl
  | case2 child parts ih =>
    rw [List.flatMap_cons, ih]
    rfl
  | case3 name => rfl
  | case4 name => rfl
  | case5 part parts _ _ _ ih =>
    rw [List.flatMap_cons, ih]
    rfl

variable (ignored : Names)

theorem scanned_one (parts : List Pattern) (portion : Portion)
    (taken : portions parts = [portion]) :
    scanned ignored parts = portion.template ignored := by
  rw [scanned, taken, List.mapM_cons]
  cases portion.template ignored with
  | error error => rfl
  | ok text => exact congrArg Except.ok (String.join_cons.trans String.append_empty)

theorem scanned_cons (parts later : List Pattern) (portion : Portion)
    (taken : portions parts = portion :: portions later) :
    scanned ignored parts =
      (do return (← portion.template ignored) ++ (← scanned ignored later)) := by
  rw [scanned, scanned, taken, List.mapM_cons]
  cases portion.template ignored with
  | error error => rfl
  | ok text =>
    cases (portions later).mapM (Portion.template ignored) with
    | error error => rfl
    | ok texts => exact congrArg Except.ok String.join_cons

theorem chain?_cons (part rest : Pattern) (others : List Pattern)
    (chained : chain? others = some rest) : chain? (part :: others) = some (cat part rest) := by
  simp only [chain?, chained]

theorem exists_chain (first : Pattern) (others : List Pattern) :
    ∃ route, chain? (first :: others) = some route := by
  cases chained : chain? others with
  | none => exact ⟨first, by simp only [chain?, chained]⟩
  | some rest => exact ⟨cat first rest, chain?_cons first rest others chained⟩

theorem apart_chain (part next rest : Pattern) (others : List Pattern)
    (chained : chain? (next :: others) = some rest)
    (flat : part.kind ≠ .cat) (flatNext : next.kind ≠ .cat)
    (noSplat : ∀ child, part = slash → next ≠ star child)
    (noEnding : ∀ (separator : Separator) (name : String), part = separator.pattern →
      others = [] → next ≠ symbol name) : Apart part rest := by
  cases others with
  | nil =>
    cases chained
    unfold Apart
    split
    · exact noEnding .dot _ rfl rfl rfl
    · exact noEnding .slash _ rfl rfl rfl
    · exact noSplat _ rfl rfl
    · exact flatNext rfl
    · exact flat rfl
    · trivial
  | cons second others =>
    rcases exists_chain second others with ⟨tail, joined⟩
    cases (chain?_cons next tail _ joined).symm.trans chained
    unfold Apart
    split <;> simp_all [kind]

theorem render_chain (parts : List Pattern) (flat : ∀ part ∈ parts, part.kind ≠ .cat)
    (route : Pattern) (chained : chain? parts = some route) :
    route.render ignored .root = scanned ignored parts := by
  fun_induction portions parts generalizing route with
  | case1 => cases chained
  | case2 child parts ih =>
    have later (part : Pattern) (member : part ∈ parts) : part.kind ≠ .cat :=
      flat part (List.mem_cons_of_mem _ (List.mem_cons_of_mem _ member))
    cases parts with
    | nil =>
      cases chained
      rw [scanned_one ignored _ (.splat child) rfl, render_splat]
      rfl
    | cons next others =>
      rcases exists_chain next others with ⟨rest, joined⟩
      have starred := chain?_cons (star child) rest _ joined
      cases (chain?_cons slash _ _ starred).symm.trans chained
      rw [scanned_cons ignored _ (next :: others) (.splat child) rfl, ← ih later rest joined,
        render_splatThen]
      rfl
  | case3 name =>
    cases chained
    rw [scanned_one ignored _ (.ending .slash name) rfl]
    exact render_separated ignored .root .slash name
  | case4 name =>
    cases chained
    rw [scanned_one ignored _ (.ending .dot name) rfl]
    exact render_separated ignored .root .dot name
  | case5 part parts noSplat noSlashed noDotted ih =>
    have later (other : Pattern) (member : other ∈ parts) : other.kind ≠ .cat :=
      flat other (List.mem_cons_of_mem _ member)
    have taken : portions (part :: parts) = .single part :: portions parts := by
      rw [portions] <;> assumption
    have alone : Portion.template ignored (.single part) = part.render ignored .root :=
      compilePath_eq_render ignored part
    cases parts with
    | nil =>
      cases chained
      rw [scanned_one ignored _ (.single part) taken, alone]
    | cons next others =>
      rcases exists_chain next others with ⟨rest, joined⟩
      have apart : Apart part rest := by
        apply apart_chain part next rest others joined (flat part List.mem_cons_self)
          (later next List.mem_cons_self)
        · intro child isSlash isStar
          exact noSplat child others isSlash (by rw [isStar])
        · intro separator name isSeparator last isSymbol
          cases separator with
          | slash => exact noSlashed name isSeparator (by rw [isSymbol, last])
          | dot => exact noDotted name isSeparator (by rw [isSymbol, last])
      cases (chain?_cons part rest _ joined).symm.trans chained
      rw [render_apart ignored .root part rest apart, scanned_cons ignored _ _ _ taken, alone,
        ← ih later rest joined]
      rfl

theorem failure_singles (found : List Portion) (error : CompileError) :
    FirstFailure (Portion.template ignored) found error ↔
      FirstFailure (compilePath ignored) (found.filterMap Portion.single?) error := by
  induction found with
  | nil => exact iff_of_false (firstFailure_nil _ error) (firstFailure_nil _ error)
  | cons portion found ih =>
    cases portion with
    | splat child =>
      exact (firstFailure_ok (Portion.template ignored) (.splat child) found _ error rfl).trans ih
    | ending separator name =>
      exact (firstFailure_ok (Portion.template ignored) (.ending separator name) found _ error
        rfl).trans ih
    | single part =>
      show _ ↔ FirstFailure _ (part :: found.filterMap Portion.single?) error
      cases alone : part.compilePath ignored with
      | error own =>
        rw [firstFailure_error _ (.single part) found own error alone,
          firstFailure_error _ part _ own error alone]
      | ok text =>
        rw [firstFailure_ok _ (.single part) found text error alone,
          firstFailure_ok _ part _ text error alone]
        exact ih

theorem scanned_eq_error (parts : List Pattern) (error : CompileError) :
    scanned ignored parts = .error error ↔
      FirstFailure (compilePath ignored) (singles parts) error := by
  rw [singles, ← failure_singles, ← mapM_eq_error, scanned]
  cases (portions parts).mapM (Portion.template ignored) <;>
    simp [bind, Except.bind, pure, Except.pure]

/-- A route that is nested to the right is written as one scan of its parts. It fails as the first
of the parts does that are written by themselves and fail by themselves. -/
theorem compilePath_scans (first : Pattern) (others : List Pattern)
    (flat : ∀ part ∈ first :: others, part.kind ≠ .cat) :
    (portions (first :: others)).flatMap Portion.parts = first :: others ∧
    ∃ route, chain? (first :: others) = some route ∧
      route.compilePath ignored = scanned ignored (first :: others) ∧
      ∀ error, route.compilePath ignored = .error error ↔
        FirstFailure (compilePath ignored) (singles (first :: others)) error := by
  rcases exists_chain first others with ⟨route, chained⟩
  have compiled : route.compilePath ignored = scanned ignored (first :: others) :=
    (compilePath_eq_render ignored route).trans (render_chain ignored _ flat route chained)
  constructor
  · exact portions_parts (first :: others)
  · refine ⟨route, chained, compiled, ?_⟩
    intro error
    rw [compiled]
    exact scanned_eq_error ignored (first :: others) error

/-- A splat, a last name that is ignored with its slash, and a part that fails behind a star that is
taken with its slash and so does not. -/
theorem compilePath_scans_mixed :
    (∀ part ∈ [slash, star (symbol "*a"), slash, literal "x", slash, symbol ":id"],
      part.kind ≠ .cat) ∧
    (∃ route, chain? [slash, star (symbol "*a"), slash, literal "x", slash, symbol ":id"] =
      some route ∧ route.compilePath (.ofList ["id"]) = .ok "\x7b/a*\x7d/x") ∧
    ∃ route, chain? [slash, star (group (group dot)), symbol "b", group (group slash)] =
      some route ∧ route.compilePath .empty = .error (.nestedGroups (group slash)) := by
  have flat : ∀ part ∈ [slash, star (symbol "*a"), slash, literal "x", slash, symbol ":id"],
      part.kind ≠ .cat := by decide
  have flatFailing : ∀ part ∈ [slash, star (group (group dot)), symbol "b", group (group slash)],
      part.kind ≠ .cat := by decide
  refine ⟨flat, ?_, ?_⟩
  · rcases compilePath_scans (.ofList ["id"]) _ _ flat with ⟨_, route, chained, compiled, _⟩
    exact ⟨route, chained, compiled⟩
  · rcases compilePath_scans .empty _ _ flatFailing with ⟨_, route, chained, _, failing⟩
    refine ⟨route, chained, (failing _).mpr ?_⟩
    exact ⟨[symbol "b"], group (group slash), [], rfl,
      List.forall_mem_singleton.mpr ⟨_, rfl⟩, rfl⟩

end RouteTemplate.Pattern
