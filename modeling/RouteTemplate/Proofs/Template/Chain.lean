import RouteTemplate.Proofs.Template.Rendering

/-!
Routes of names with a slash in front of each, nested to the right as a parser nests them. Only the
last slash is the left neighbour of its name in the tree. A slash farther to the left is written by
itself, and stays where its name is ignored.
-/

namespace RouteTemplate.Pattern

def slashed (names : List String) : List Pattern :=
  names.flatMap fun name => [slash, symbol name]

def slashedTemplate (ignored : Names) : List String → String
  | [] => ""
  | [last] => placeholder ignored last (.after .slash)
  | name :: next :: others =>
    "/" ++ placeholder ignored name .bare ++ slashedTemplate ignored (next :: others)

/-- What the template would be if each ignored name took its slash with it. -/
def cleanTemplate (ignored : Names) (names : List String) : String :=
  String.join (((names.map undecorated).filter (!ignored.contains ·)).map fun name =>
    "/\x7b" ++ name ++ "\x7d")

variable (ignored : Names)

theorem chain?_slashed (first : String) (others : List String) (rest : Pattern)
    (chained : chain? (slashed others) = some rest) :
    chain? (slashed (first :: others)) = some (cat slash (cat (symbol first) rest)) := by
  show chain? (slash :: symbol first :: slashed others) = _
  simp only [chain?, chained]

theorem render_slashed (first : String) (others : List String) (context : Context)
    (outside : context.fillsGroup = false) :
    ∃ route, chain? (slashed (first :: others)) = some route ∧
      route.render ignored context = .ok (slashedTemplate ignored (first :: others)) := by
  induction others generalizing first context with
  | nil =>
    refine ⟨cat slash (symbol first), rfl, ?_⟩
    have form : context.form .slash = .after .slash := by simp [Context.form, outside]
    exact (render_separated ignored context .slash first).trans (by rw [form]; rfl)
  | cons next others ih =>
    obtain ⟨rest, chained, rendered⟩ := ih next context.within.within rfl
    refine ⟨_, chain?_slashed first (next :: others) rest chained, ?_⟩
    have tail : render ignored context.within (cat (symbol first) rest) =
        .ok (placeholder ignored first .bare ++ slashedTemplate ignored (next :: others)) := by
      rw [render_apart ignored _ (symbol first) rest (by simp [Apart]), render_symbol, rendered]
      rfl
    rw [render_apart ignored _ slash (cat (symbol first) rest) (by simp [Apart]), tail,
      slashedTemplate, String.append_assoc]
    rfl

theorem cleanTemplate_cons (name : String) (others : List String) :
    cleanTemplate ignored (name :: others) =
      placeholder ignored name (.after .slash) ++ cleanTemplate ignored others := by
  unfold cleanTemplate placeholder
  cases known : ignored.contains (undecorated name) <;>
    simp [known, Form.write, Separator.text, String.join_cons]

theorem placeholder_kept (separator : Separator) (name : String)
    (kept : ignored.contains (undecorated name) = false) :
    placeholder ignored name (.after separator) =
      separator.text ++ placeholder ignored name .bare := by
  rw [placeholder, placeholder, kept]
  simp only [Bool.false_eq_true, if_false, Form.write, String.append_assoc]

theorem placeholder_ignored (name : String) (form : Form)
    (gone : ignored.contains (undecorated name) = true) : placeholder ignored name form = "" :=
  if_pos gone

theorem cleanTemplate_length_le (names : List String) :
    (cleanTemplate ignored names).length ≤ (slashedTemplate ignored names).length := by
  induction names with
  | nil => exact Nat.le_refl _
  | cons name others ih =>
    rw [cleanTemplate_cons, String.length_append]
    cases others with
    | nil => exact Nat.le_refl _
    | cons next others =>
      rw [slashedTemplate, String.length_append]
      refine Nat.add_le_add ?_ ih
      cases known : ignored.contains (undecorated name) with
      | true => simp [placeholder_ignored ignored name _ known]
      | false => exact Nat.le_of_eq (congrArg _ (placeholder_kept ignored .slash name known))

theorem slashedTemplate_eq_clean_iff (first : String) (others : List String) :
    slashedTemplate ignored (first :: others) = cleanTemplate ignored (first :: others) ↔
      ∀ name ∈ (first :: others).dropLast, ignored.contains (undecorated name) = false := by
  induction others generalizing first with
  | nil =>
    have same : slashedTemplate ignored [first] = cleanTemplate ignored [first] :=
      (String.append_empty).symm.trans (cleanTemplate_cons ignored first []).symm
    exact iff_of_true same (List.forall_mem_nil _)
  | cons next others ih =>
    rw [slashedTemplate, cleanTemplate_cons, List.dropLast_cons_cons, List.forall_mem_cons,
      ← ih next]
    cases known : ignored.contains (undecorated first) with
    | false =>
      rw [placeholder_kept ignored .slash first known, Separator.text, String.append_right_inj]
      exact ⟨fun same => ⟨rfl, same⟩, And.right⟩
    | true =>
      -- One slash more than the name leaves room for.
      refine iff_of_false (fun same => ?_) (fun both => Bool.noConfusion both.1)
      have length := congrArg String.length same
      have shorter := cleanTemplate_length_le ignored (next :: others)
      simp only [placeholder_ignored ignored first _ known, String.append_empty,
        String.empty_append, String.length_append] at length
      have slash : "/".length = 1 := rfl
      omega

/-- The template of a route with names at each of its slashes, and when it is the one in which
ignored names leave nothing behind: when no name but the last is ignored. -/
theorem compilePath_slashed (first : String) (others : List String) :
    ∃ route, chain? (slashed (first :: others)) = some route ∧
      route.compilePath ignored = .ok (slashedTemplate ignored (first :: others)) ∧
      (route.compilePath ignored = .ok (cleanTemplate ignored (first :: others)) ↔
        ∀ name ∈ (first :: others).dropLast, ignored.contains (undecorated name) = false) := by
  obtain ⟨route, chained, rendered⟩ := render_slashed ignored first others .root rfl
  have compiled := (compilePath_eq_render ignored route).trans rendered
  refine ⟨route, chained, compiled, ?_⟩
  rw [compiled, Except.ok.injEq]
  exact slashedTemplate_eq_clean_iff ignored first others

/-- The first of two slashes stays, although its name is ignored. -/
theorem compilePath_slashed_locale :
    (chain? (slashed [":locale", ":id"])).map (compilePath (.ofList ["locale"])) =
      some (.ok "//\x7bid\x7d") ∧
    cleanTemplate (.ofList ["locale"]) [":locale", ":id"] = "/\x7bid\x7d" ∧
    (chain? (slashed [":locale", ":id"])).map (compilePath (.ofList ["locale"])) ≠
      some (.ok (cleanTemplate (.ofList ["locale"]) [":locale", ":id"])) := by
  have compiled : (chain? (slashed [":locale", ":id"])).map (compilePath (.ofList ["locale"])) =
    some (.ok "//\x7bid\x7d") := rfl
  have clean : cleanTemplate (.ofList ["locale"]) [":locale", ":id"] = "/\x7bid\x7d" := by decide
  refine ⟨compiled, clean, ?_⟩
  rw [compiled, clean]
  simp

end RouteTemplate.Pattern
