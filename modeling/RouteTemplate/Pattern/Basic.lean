import RouteTemplate.Text.Quoted

namespace RouteTemplate

/-- The kinds of node, in the order in which kinds are compared. -/
inductive Kind where
  | cat
  | literal
  | slash
  | dot
  | symbol
  | or
  | star
  | group
  deriving DecidableEq, Repr, Ord

namespace Kind

def all : List Kind := [cat, literal, slash, dot, symbol, or, star, group]

def name : Kind → String
  | cat => "Cat"
  | literal => "Literal"
  | slash => "Slash"
  | dot => "Dot"
  | symbol => "Symbol"
  | or => "Or"
  | star => "Star"
  | group => "Group"

def isTerminal : Kind → Bool
  | literal | slash | dot | symbol => true
  | cat | or | star | group => false

end Kind

inductive Pattern where
  | literal (text : String)
  | slash
  | dot
  /-- A named placeholder. The name keeps the mark it was written with, as in `:id` or `*path`. -/
  | symbol (name : String)
  /-- A placeholder that may span several segments. -/
  | star (child : Pattern)
  | cat (left right : Pattern)
  | or (branches : List Pattern)
  | group (child : Pattern)
  deriving Repr, Inhabited

namespace Pattern

mutual

def decEq : (a b : Pattern) → Decidable (a = b)
  | .literal a, .literal b => decidable_of_iff (a = b) (by simp)
  | .slash, .slash => isTrue rfl
  | .dot, .dot => isTrue rfl
  | .symbol a, .symbol b => decidable_of_iff (a = b) (by simp)
  | .star a, .star b =>
    have := decEq a b
    decidable_of_iff (a = b) (by simp)
  | .cat a c, .cat b d =>
    have := decEq a b
    have := decEq c d
    decidable_of_iff (a = b ∧ c = d) (by simp)
  | .or a, .or b =>
    have := decEqBranches a b
    decidable_of_iff (a = b) (by simp)
  | .group a, .group b =>
    have := decEq a b
    decidable_of_iff (a = b) (by simp)
  | .literal _, .slash | .literal _, .dot | .literal _, .symbol _ | .literal _, .star _
  | .literal _, .cat _ _ | .literal _, .or _ | .literal _, .group _ => isFalse nofun
  | .slash, .literal _ | .slash, .dot | .slash, .symbol _ | .slash, .star _
  | .slash, .cat _ _ | .slash, .or _ | .slash, .group _ => isFalse nofun
  | .dot, .literal _ | .dot, .slash | .dot, .symbol _ | .dot, .star _
  | .dot, .cat _ _ | .dot, .or _ | .dot, .group _ => isFalse nofun
  | .symbol _, .literal _ | .symbol _, .slash | .symbol _, .dot | .symbol _, .star _
  | .symbol _, .cat _ _ | .symbol _, .or _ | .symbol _, .group _ => isFalse nofun
  | .star _, .literal _ | .star _, .slash | .star _, .dot | .star _, .symbol _
  | .star _, .cat _ _ | .star _, .or _ | .star _, .group _ => isFalse nofun
  | .cat _ _, .literal _ | .cat _ _, .slash | .cat _ _, .dot | .cat _ _, .symbol _
  | .cat _ _, .star _ | .cat _ _, .or _ | .cat _ _, .group _ => isFalse nofun
  | .or _, .literal _ | .or _, .slash | .or _, .dot | .or _, .symbol _
  | .or _, .star _ | .or _, .cat _ _ | .or _, .group _ => isFalse nofun
  | .group _, .literal _ | .group _, .slash | .group _, .dot | .group _, .symbol _
  | .group _, .star _ | .group _, .cat _ _ | .group _, .or _ => isFalse nofun

def decEqBranches : (a b : List Pattern) → Decidable (a = b)
  | [], [] => isTrue rfl
  | a :: as, b :: bs =>
    have := decEq a b
    have := decEqBranches as bs
    decidable_of_iff (a = b ∧ as = bs) (by simp)
  | [], _ :: _ => isFalse nofun
  | _ :: _, [] => isFalse nofun

end

instance : DecidableEq Pattern := decEq

def kind : Pattern → Kind
  | .literal _ => .literal
  | .slash => .slash
  | .dot => .dot
  | .symbol _ => .symbol
  | .star _ => .star
  | .cat _ _ => .cat
  | .or _ => .or
  | .group _ => .group

def left? : Pattern → Option Pattern
  | .cat left _ => some left
  | _ => none

def right? : Pattern → Option Pattern
  | .cat _ right => some right
  | _ => none

/-- The patterns one after another, nested to the right: `[a, b, c]` gives `cat a (cat b c)`. -/
def chain? : List Pattern → Option Pattern
  | [] => none
  | first :: others =>
    match chain? others with
    | none => some first
    | some rest => some (.cat first rest)

mutual

/-- The pattern as it is written in a route. A star shows nothing of its own: its mark is part of
the name below it. -/
def text : Pattern → String
  | .literal text => text
  | .slash => "/"
  | .dot => "."
  | .symbol name => name
  | .star child => child.text
  | .cat left right => left.text ++ right.text
  | .or branches => "|".intercalate (branchTexts branches)
  | .group child => "(" ++ child.text ++ ")"

def branchTexts : List Pattern → List String
  | [] => []
  | branch :: others => branch.text :: branchTexts others

end

def label : Pattern → String
  | .literal text => "Literal " ++ Text.quoted text
  | .symbol name => "Symbol " ++ name
  | pattern => pattern.kind.name

def indentation (level : Nat) : String := String.ofList (List.replicate (2 * level) ' ')

def outlineLine (level : Nat) (pattern : Pattern) : String :=
  indentation level ++ pattern.label ++ "\n"

mutual

def outlineLines (level : Nat) : Pattern → List String
  | .literal text => [outlineLine level (.literal text)]
  | .slash => [outlineLine level .slash]
  | .dot => [outlineLine level .dot]
  | .symbol name => [outlineLine level (.symbol name)]
  | .star child => outlineLine level (.star child) :: outlineLines (level + 1) child
  | .cat left right =>
    outlineLine level (.cat left right) ::
      (outlineLines (level + 1) left ++ outlineLines (level + 1) right)
  | .or branches => outlineLine level (.or branches) :: branchLines (level + 1) branches
  | .group child => outlineLine level (.group child) :: outlineLines (level + 1) child

def branchLines (level : Nat) : List Pattern → List String
  | [] => []
  | branch :: others => outlineLines level branch ++ branchLines level others

end

def outline (pattern : Pattern) : String := String.join (pattern.outlineLines 0)

end Pattern

end RouteTemplate
