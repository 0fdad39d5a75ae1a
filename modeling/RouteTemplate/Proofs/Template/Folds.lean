import Mathlib.Data.List.Chain
import Mathlib.Data.List.DropRight
import RouteTemplate.Proofs.Template.Chain
import RouteTemplate.Proofs.Template.Scan

/-!
Routes nested to the left and routes nested to the right. Where a route is nested to the right, a
star stands next to its slash in the tree. Where it is nested to the left, the slash has been
written by then and is trimmed away again. The two come to the same, because what was written before
such a slash does not end in another one.
-/

namespace RouteTemplate

def EndsInSlash (text : String) : Prop := text.toList.getLast? = some '/'

instance (text : String) : Decidable (EndsInSlash text) := inferInstanceAs (Decidable (_ = _))

theorem endsInSlash_append (left right : String) (written : right ≠ "") :
    EndsInSlash (left ++ right) ↔ EndsInSlash right := by
  have nonempty : right.toList ≠ [] := by
    intro empty
    exact written (String.toList_eq_nil_iff.mp empty)
  rw [EndsInSlash, EndsInSlash, String.toList_append, List.getLast?_append_of_ne_nil _ nonempty]

theorem trimSlashes_slash (text : String) (clear : ¬ EndsInSlash text) :
    trimSlashes (text ++ "/") = text := by
  have last : ∀ nonempty : text.toList ≠ [], ¬ (text.toList.getLast nonempty == '/') = true := by
    intro nonempty slash
    apply clear
    rw [EndsInSlash, List.getLast?_eq_some_getLast nonempty, beq_iff_eq.mp slash]
  calc
    trimSlashes (text ++ "/")
      = String.ofList ((text.toList ++ ['/']).rdropWhile (· == '/')) := by
        rw [trimSlashes, String.toList_append]
        rfl
    _ = String.ofList (text.toList.rdropWhile (· == '/')) := by
        rw [List.rdropWhile_concat_pos _ _ _ (by decide)]
    _ = String.ofList text.toList := by rw [List.rdropWhile_eq_self_iff.mpr last]
    _ = text := String.ofList_toList

theorem not_endsInSlash_write (name : String) (form : Form) : ¬ EndsInSlash (form.write name) := by
  have braced (leading : String) : ¬ EndsInSlash (leading ++ "\x7d") := by
    rw [endsInSlash_append leading "\x7d" (by decide)]
    decide
  cases form with
  | bare => exact braced _
  | after separator => exact braced _
  | carrying separator => exact braced _
  | segments =>
    rw [Form.write, endsInSlash_append _ "*\x7d" (by decide)]
    decide

theorem write_ne_empty (name : String) (form : Form) : form.write name ≠ "" := by
  intro empty
  have length := congrArg String.length empty
  cases form <;> simp [Form.write] at length

theorem not_endsInSlash_placeholder (ignored : Names) (text name : String) (form : Form)
    (clear : ¬ EndsInSlash text) : ¬ EndsInSlash (text ++ placeholder ignored name form) := by
  rw [placeholder]
  split
  · rwa [String.append_empty]
  · rw [endsInSlash_append _ _ (write_ne_empty _ form)]
    exact not_endsInSlash_write _ form

namespace Pattern

/-- The parts of the routes that come to the same either way. -/
def Token (ignored : Names) : Pattern → Prop
  | literal text => text ≠ "" ∧ ¬ EndsInSlash text
  | slash => True
  | dot => True
  | symbol name => ignored.contains (undecorated name) = false
  | star child => ∃ name, child = symbol name
  | group child => ∃ text, (group child).compilePath ignored = .ok text ∧ text ≠ "" ∧
      ¬ EndsInSlash text
  | cat _ _ => False
  | or _ => False

/-- A star follows a slash only, and a slash does not follow another. -/
def MayFollow (left right : Pattern) : Prop :=
  (right.kind = .star → left = slash) ∧ (left = slash → right ≠ slash)

def ownText (ignored : Names) (part : Pattern) : String :=
  (part.compilePath ignored).toOption.getD ""

def extended (ignored : Names) (text : String) : Pattern → String
  | star child => trimSlashes text ++ placeholder ignored child.text .segments
  | part => text ++ part.ownText ignored

variable (ignored : Names)

theorem token_compiles (part : Pattern) (token : Token ignored part)
    (starless : part.kind ≠ .star) :
    part.compilePath ignored = .ok (part.ownText ignored) := by
  cases part with
  | star child => exact absurd rfl starless
  | cat left right => exact token.elim
  | or branches => exact token.elim
  | group child =>
    rcases token with ⟨text, compiled, _⟩
    rw [ownText, compiled]
    rfl
  | _ => rfl

theorem token_closes (part : Pattern) (token : Token ignored part) (starless : part.kind ≠ .star)
    (slashless : part ≠ slash) :
    part.ownText ignored ≠ "" ∧ ¬ EndsInSlash (part.ownText ignored) := by
  cases part with
  | literal text => exact token
  | slash => exact absurd rfl slashless
  | dot =>
    have own : dot.ownText ignored = "." := rfl
    rw [own]
    decide
  | symbol name =>
    have own : (symbol name).ownText ignored = Form.write (undecorated name) .bare :=
      if_neg (by rw [token]; decide)
    rw [own]
    exact ⟨write_ne_empty _ _, not_endsInSlash_write _ _⟩
  | star child => exact absurd rfl starless
  | cat left right => exact token.elim
  | or branches => exact token.elim
  | group child =>
    rcases token with ⟨text, compiled, written, clear⟩
    rw [ownText, compiled]
    exact ⟨written, clear⟩

theorem extended_starless (text : String) (part : Pattern) (starless : part.kind ≠ .star) :
    extended ignored text part = text ++ part.ownText ignored := by
  cases part with
  | star child => exact absurd rfl starless
  | _ => rfl

theorem render_token (part : Pattern) (token : Token ignored part) (starless : part.kind ≠ .star) :
    part.render ignored .root = .ok (part.ownText ignored) :=
  (compilePath_eq_render ignored part).symm.trans (token_compiles ignored part token starless)

theorem render_beside (left right : Pattern) (leading following : String)
    (apart : Apart left right) (rendered : left.render ignored .root = .ok leading)
    (renderedRight : right.render ignored .root = .ok following) :
    (cat left right).render ignored .root = .ok (leading ++ following) := by
  have same : Context.root.within = .root := rfl
  rw [render_apart ignored .root left right apart, same, rendered, renderedRight]
  rfl

theorem render_extended (left part : Pattern) (text : String) (joined : left.kind = .cat)
    (rendered : left.render ignored .root = .ok text) (token : Token ignored part) :
    (cat left part).render ignored .root = .ok (extended ignored text part) := by
  by_cases starred : part.kind = .star
  · cases part with
    | star child =>
      cases left with
      | cat first second =>
        have same : Context.root.within = .root := rfl
        rw [render_thenSplat, same, rendered]
        rfl
      | _ => cases joined
    | _ => cases starred
  · have apart : Apart left part := by
      unfold Apart
      split <;> simp_all [kind]
    rw [extended_starless ignored text part starred]
    have alone := render_token ignored part token starred
    exact render_beside ignored left part _ _ apart rendered alone

theorem render_pair (first second : Pattern) (token : Token ignored first)
    (tokenSecond : Token ignored second) (starless : first.kind ≠ .star)
    (follows : MayFollow first second) :
    (cat first second).render ignored .root =
      .ok (extended ignored (first.ownText ignored) second) := by
  by_cases starred : second.kind = .star
  · have slashed : first = slash := follows.1 starred
    have nothing : trimSlashes "/" = "" := trimSlashes_slash "" (by decide)
    cases second with
    | star child =>
      have whole : extended ignored (ownText ignored slash) (star child) =
          trimSlashes "/" ++ placeholder ignored child.text .segments := rfl
      rw [slashed, whole, nothing, String.empty_append, render_splat]
    | _ => cases starred
  · rw [extended_starless ignored _ second starred]
    by_cases ending : ∃ (separator : Separator) (name : String),
        first = separator.pattern ∧ second = symbol name
    · rcases ending with ⟨separator, name, rfl, rfl⟩
      have written : separator.pattern.ownText ignored = separator.text := by
        cases separator <;> rfl
      rw [render_separated, written]
      exact congrArg Except.ok (placeholder_kept ignored separator name tokenSecond)
    · have apart : Apart first second := by
        unfold Apart
        split
        · exact ending ⟨.dot, _, rfl, rfl⟩
        · exact ending ⟨.slash, _, rfl, rfl⟩
        · exact starred rfl
        · exact tokenSecond
        · exact starred rfl
        · trivial
      exact render_beside ignored first second _ _ apart (render_token ignored first token starless)
        (render_token ignored second tokenSecond starred)

theorem render_foldl (left : Pattern) (others : List Pattern) (text : String)
    (joined : left.kind = .cat) (rendered : left.render ignored .root = .ok text)
    (tokens : ∀ part ∈ others, Token ignored part) :
    (others.foldl cat left).render ignored .root =
      .ok (others.foldl (extended ignored) text) := by
  induction others generalizing left text with
  | nil => exact rendered
  | cons part others ih =>
    rcases List.forall_mem_cons.mp tokens with ⟨token, later⟩
    have longer := render_extended ignored left part text joined rendered token
    exact ih (cat left part) _ rfl longer later

theorem render_leftNested (first : Pattern) (others : List Pattern)
    (tokens : ∀ part ∈ first :: others, Token ignored part) (starless : first.kind ≠ .star)
    (spaced : (first :: others).IsChain MayFollow) :
    (others.foldl cat first).render ignored .root =
      .ok (others.foldl (extended ignored) (first.ownText ignored)) := by
  rcases List.forall_mem_cons.mp tokens with ⟨token, later⟩
  cases others with
  | nil => exact render_token ignored first token starless
  | cons second others =>
    rcases List.forall_mem_cons.mp later with ⟨tokenSecond, later⟩
    have follows := (List.isChain_cons_cons.mp spaced).1
    exact render_foldl ignored (cat first second) others _ rfl
      (render_pair ignored first second token tokenSecond starless follows) later

/-- What holds of the text that has come so far and the parts that are still to come. Where the text
ends in a slash, the scan has taken that slash by itself, so that neither a star nor a slash is
next. -/
structure Ready (text : String) (parts : List Pattern) : Prop where
  tokens : ∀ part ∈ parts, Token ignored part
  spaced : parts.IsChain MayFollow
  starless : ∀ next ∈ parts.head?, next.kind ≠ .star
  clear : EndsInSlash text → ∀ next ∈ parts.head?, next ≠ slash

theorem ready_splat (text : String) (child : Pattern) (parts : List Pattern)
    (ready : Ready ignored text (slash :: star child :: parts)) :
    Ready ignored (text ++ placeholder ignored child.text .segments) parts := by
  have clear : ¬ EndsInSlash text := fun ends => ready.clear ends slash rfl rfl
  rcases List.isChain_cons.mp (List.isChain_cons.mp ready.spaced).2 with ⟨follows, later⟩
  constructor
  · intro part member
    exact ready.tokens part (List.mem_cons_of_mem _ (List.mem_cons_of_mem _ member))
  · exact later
  · intro next isNext starred
    cases (follows next isNext).1 starred
  · intro ends
    exact absurd ends (not_endsInSlash_placeholder ignored text child.text .segments clear)

theorem ready_single (text : String) (part : Pattern) (parts : List Pattern)
    (ready : Ready ignored text (part :: parts))
    (noSplat : ∀ child others, part = slash → parts ≠ star child :: others) :
    Ready ignored (text ++ part.ownText ignored) parts := by
  rcases List.isChain_cons.mp ready.spaced with ⟨follows, later⟩
  constructor
  · intro other member
    exact ready.tokens other (List.mem_cons_of_mem _ member)
  · exact later
  · intro next isNext starred
    have slashed := (follows next isNext).1 starred
    rcases List.head?_eq_some_iff.mp isNext with ⟨others, rfl⟩
    cases next with
    | star child => exact noSplat child others slashed rfl
    | _ => cases starred
  · intro ends next isNext
    apply (follows next isNext).2
    by_contra slashless
    rcases token_closes ignored part (ready.tokens part List.mem_cons_self)
      (ready.starless part rfl) slashless with ⟨written, closed⟩
    exact closed ((endsInSlash_append text _ written).mp ends)

theorem extended_splat (text : String) (child : Pattern) (clear : ¬ EndsInSlash text) :
    extended ignored (extended ignored text slash) (star child) =
      text ++ placeholder ignored child.text .segments := by
  conv_rhs => rw [← trimSlashes_slash text clear]
  rfl

theorem extended_ending (text : String) (separator : Separator) (name : String)
    (token : Token ignored (symbol name)) :
    extended ignored (extended ignored text separator.pattern) (symbol name) =
      text ++ placeholder ignored name (.after separator) := by
  rw [placeholder_kept ignored separator name token, ← String.append_assoc]
  cases separator <;> rfl

theorem scanned_extended (text : String) (parts : List Pattern) (ready : Ready ignored text parts) :
    ∃ following, scanned ignored parts = .ok following ∧
      parts.foldl (extended ignored) text = text ++ following := by
  fun_induction portions parts generalizing text with
  | case1 => exact ⟨"", rfl, String.append_empty.symm⟩
  | case2 child parts ih =>
    have clear : ¬ EndsInSlash text := fun ends => ready.clear ends slash rfl rfl
    rcases ih _ (ready_splat ignored text child parts ready) with ⟨following, written, same⟩
    refine ⟨placeholder ignored child.text .segments ++ following, ?_, ?_⟩
    · rw [scanned_cons ignored _ parts (.splat child) rfl, written]
      rfl
    · rw [List.foldl_cons, List.foldl_cons, extended_splat ignored text child clear, same,
        String.append_assoc]
  | case3 name =>
    have token := ready.tokens (symbol name) (List.mem_cons_of_mem _ List.mem_cons_self)
    refine ⟨placeholder ignored name (.after .slash), ?_, ?_⟩
    · exact scanned_one ignored _ (.ending .slash name) rfl
    · exact extended_ending ignored text .slash name token
  | case4 name =>
    have token := ready.tokens (symbol name) (List.mem_cons_of_mem _ List.mem_cons_self)
    refine ⟨placeholder ignored name (.after .dot), ?_, ?_⟩
    · exact scanned_one ignored _ (.ending .dot name) rfl
    · exact extended_ending ignored text .dot name token
  | case5 part parts noSplat noSlashed noDotted ih =>
    have starless : part.kind ≠ .star := ready.starless part rfl
    have own := token_compiles ignored part (ready.tokens part List.mem_cons_self) starless
    have taken : portions (part :: parts) = .single part :: portions parts := by
      rw [portions] <;> assumption
    rcases ih _ (ready_single ignored text part parts ready noSplat) with ⟨following, written, same⟩
    refine ⟨part.ownText ignored ++ following, ?_, ?_⟩
    · rw [scanned_cons ignored _ parts (.single part) taken, written, Portion.template, own]
      rfl
    · rw [List.foldl_cons, extended_starless ignored text part starless, same, String.append_assoc]

theorem token_flat (part : Pattern) (token : Token ignored part) : part.kind ≠ .cat := by
  cases part with
  | cat left right => exact token.elim
  | _ => nofun

/-- Nested to the left or to the right, a route comes to the same template, if its parts are tokens,
a star only ever follows a slash, and no two slashes are next to each other. -/
theorem compilePath_folds_agree (first : Pattern) (others : List Pattern)
    (tokens : ∀ part ∈ first :: others, Token ignored part) (starless : first.kind ≠ .star)
    (spaced : (first :: others).IsChain MayFollow) :
    ∃ right template, chain? (first :: others) = some right ∧
      right.compilePath ignored = .ok template ∧
      (others.foldl cat first).compilePath ignored = .ok template := by
  rcases exists_chain first others with ⟨right, chained⟩
  have flat : ∀ part ∈ first :: others, part.kind ≠ .cat := by
    intro part member
    exact token_flat ignored part (tokens part member)
  have ready : Ready ignored "" (first :: others) := by
    constructor
    · exact tokens
    · exact spaced
    · intro next isNext
      rw [← Option.some.inj isNext]
      exact starless
    · intro ends
      exact absurd ends (by decide)
  rcases scanned_extended ignored "" (first :: others) ready with ⟨template, written, same⟩
  rw [List.foldl_cons, extended_starless ignored "" first starless, String.empty_append,
    String.empty_append] at same
  refine ⟨right, template, chained, ?_, ?_⟩
  · rw [compilePath_eq_render, render_chain ignored _ flat right chained, written]
  · rw [compilePath_eq_render, render_leftNested ignored first others tokens starless spaced, same]

/-- The first star is ignored, so that nothing stands in front of the second slash. -/
theorem compilePath_folds_agree_splats :
    ∃ right, chain? [slash, star (symbol "*a"), slash, star (symbol "*b"), dot, symbol ":c",
        group (cat slash (symbol "d"))] = some right ∧
      right.compilePath (.ofList ["a"]) = .ok "\x7b/b*\x7d.\x7bc\x7d\x7b/d\x7d" ∧
      ([star (symbol "*a"), slash, star (symbol "*b"), dot, symbol ":c",
        group (cat slash (symbol "d"))].foldl cat slash).compilePath (.ofList ["a"]) =
        .ok "\x7b/b*\x7d.\x7bc\x7d\x7b/d\x7d" := by
  have kept : Token (.ofList ["a"]) (symbol ":c") := by
    show Names.contains _ _ = false
    decide
  have grouped : Token (.ofList ["a"]) (group (cat slash (symbol "d"))) :=
    ⟨"\x7b/d\x7d", rfl, by decide, by decide⟩
  have tokens : ∀ part ∈ [slash, star (symbol "*a"), slash, star (symbol "*b"), dot, symbol ":c",
      group (cat slash (symbol "d"))], Token (.ofList ["a"]) part := by
    simp only [List.forall_mem_cons]
    exact ⟨trivial, ⟨_, rfl⟩, trivial, ⟨_, rfl⟩, trivial, kept, grouped, List.forall_mem_nil _⟩
  have spaced : [slash, star (symbol "*a"), slash, star (symbol "*b"), dot, symbol ":c",
      group (cat slash (symbol "d"))].IsChain MayFollow := by
    simp [MayFollow, kind]
  have starless : slash.kind ≠ .star := by decide
  rcases compilePath_folds_agree (.ofList ["a"]) slash _ tokens starless spaced with
    ⟨right, template, chained, compiled, compiledLeft⟩
  have known : right.compilePath (.ofList ["a"]) =
      .ok "\x7b/b*\x7d.\x7bc\x7d\x7b/d\x7d" := by
    cases chained
    rfl
  exact ⟨right, chained, known, compiledLeft.trans (compiled.symm.trans known)⟩

end Pattern

end RouteTemplate
