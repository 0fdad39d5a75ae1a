import RouteTemplate.OrderedMap
import RouteTemplate.Pattern.Basic

namespace RouteTemplate

def isMark (c : Char) : Bool := c == '*' || c == ':'

def undecorated (name : String) : String := String.ofList (name.toList.filter (!isMark ·))

inductive Separator where
  | slash
  | dot
  deriving DecidableEq, Repr

def Separator.text : Separator → String
  | slash => "/"
  | dot => "."

inductive Form where
  | bare
  /-- With a separator in front, which stays if the value is absent. -/
  | after (separator : Separator)
  /-- With a separator inside the braces, which goes with the value. -/
  | carrying (separator : Separator)
  | segments
  deriving DecidableEq, Repr

def Form.write (name : String) : Form → String
  | bare => "\x7b" ++ name ++ "\x7d"
  | after separator => separator.text ++ "\x7b" ++ name ++ "\x7d"
  | carrying separator => "\x7b" ++ separator.text ++ name ++ "\x7d"
  | segments => "\x7b/" ++ name ++ "*\x7d"

/-- The placeholder of that name. An ignored name leaves nothing behind, no separator either. -/
def placeholder (ignored : Names) (name : String) (form : Form) : String :=
  if ignored.contains (undecorated name) then "" else form.write (undecorated name)

inductive CompileError where
  | nestedGroups (inner : Pattern)
  deriving DecidableEq, Repr

def CompileError.message : CompileError → String
  | nestedGroups inner => "nested groups not permitted: `" ++ inner.text ++ "`"

/-- A visited node and its level in the walk, where the root has level one. -/
structure Visit where
  kind : Kind
  depth : Nat
  deriving DecidableEq, Repr

structure Walk where
  /-- The kinds from the node that is being visited up to the root. -/
  path : List Kind
  groups : Nat
  visits : Array Visit
  deriving DecidableEq, Repr

abbrev WalkM := ExceptT CompileError (StateM Walk)

namespace Walk

def start : Walk := ⟨[], 0, #[]⟩

def visiting (kind : Kind) (action : WalkM String) : WalkM String :=
  ExceptT.mk fun walk =>
    let depth := walk.path.length + 1
    let entered := ⟨kind :: walk.path, walk.groups, walk.visits.push ⟨kind, depth⟩⟩
    let (outcome, left) := (action.run.run entered : Except CompileError String × Walk)
    (outcome, { left with path := left.path.tail })

def grouped (action : WalkM String) : WalkM String :=
  ExceptT.mk fun walk =>
    let entered := { walk with groups := walk.groups + 1 }
    let (outcome, left) := (action.run.run entered : Except CompileError String × Walk)
    (outcome, { left with groups := left.groups - 1 })

def fillsGroup (walk : Walk) : Bool :=
  match walk.path with
  | .cat :: .group :: _ => true
  | _ => false

end Walk

def trimSlashes (text : String) : String :=
  String.ofList (text.toList.reverse.dropWhile (· == '/')).reverse

def separated (ignored : Names) (separator : Separator) (name : String) : WalkM String := do
  let walk ← get
  return placeholder ignored name
    (if walk.fillsGroup then .carrying separator else .after separator)

namespace Pattern

mutual

def visit (ignored : Names) : Pattern → WalkM String
  | literal text => Walk.visiting .literal (return text)
  | slash => Walk.visiting .slash (return "/")
  | dot => Walk.visiting .dot (return ".")
  | symbol name => Walk.visiting .symbol (return placeholder ignored name .bare)
  | star child => Walk.visiting .star (visit ignored child)
  | cat left right => Walk.visiting .cat <|
    match left, right with
    | dot, symbol name => separated ignored .dot name
    | slash, symbol name => separated ignored .slash name
    | slash, star child => return placeholder ignored child.text .segments
    | slash, cat (star child) rest => do
      let following ← visit ignored rest
      return placeholder ignored child.text .segments ++ following
    | cat first second, star child => do
      let leading ← visit ignored (cat first second)
      return trimSlashes leading ++ placeholder ignored child.text .segments
    | left, right => do
      let leading ← visit ignored left
      let following ← visit ignored right
      return leading ++ following
  | or branches => Walk.visiting .or (visitBranches ignored branches)
  | group child => Walk.visiting .group do
    let walk ← get
    if 1 ≤ walk.groups then throw (.nestedGroups (group child))
    Walk.grouped (visit ignored child)

def visitBranches (ignored : Names) : List Pattern → WalkM String
  | [] => return ""
  | branch :: others => do
    let leading ← visit ignored branch
    let following ← visitBranches ignored others
    return leading ++ following

end

def walk (ignored : Names) (pattern : Pattern) : Except CompileError String × Walk :=
  (pattern.visit ignored).run.run Walk.start

def compilePath (ignored : Names) (pattern : Pattern) : Except CompileError String :=
  (pattern.walk ignored).1

end Pattern

end RouteTemplate
