import RouteTemplate.Json.Value
import RouteTemplate.Proofs.Json.Grammar

namespace RouteTemplate.Json

theorem unit?_control (code : Nat) (control : code < 0x20) :
    unit? '0' '0' (Nat.digitChar (code / 16)) (Nat.digitChar (code % 16)) = some code := by
  revert code
  decide

theorem escapedChar_spells (c : Char) : SpellsUnits (charUnits c) (escapedChar c) := by
  fun_cases escapedChar c with
  | case1 => exact .letter '"' '"' rfl
  | case2 => exact .letter '\\' '\\' rfl
  | case3 => exact .letter '\x08' 'b' rfl
  | case4 => exact .letter '\t' 't' rfl
  | case5 => exact .letter '\n' 'n' rfl
  | case6 => exact .letter '\x0c' 'f' rfl
  | case7 => exact .letter '\r' 'r' rfl
  | case8 _ _ _ _ _ _ _ _ control =>
    have single : charUnits c = [c.toNat] := if_pos (Nat.lt_trans control (by decide))
    rw [single]
    exact .digits c.toNat _ _ _ _ (unit?_control c.toNat control)
  | case9 _ noQuote noEscape _ _ _ _ _ visible =>
    exact .plain c (Nat.not_lt.mp visible) noQuote noEscape

theorem escaped_spells (text : List Char) :
    SpellsString (text.flatMap charUnits) (text.flatMap escapedChar) := by
  induction text with
  | nil => exact .nil
  | cons c text ih => exact .cons (escapedChar_spells c) ih

theorem stringText_spells (text : String) : Spells (.string text) (stringText text).toList := by
  rw [stringText, String.toList_ofList]
  exact .text (escaped_spells text.toList)

namespace Value

mutual

def datum : Value → Datum
  | .boolean value => .boolean value
  | .text value => .string value
  | .list items => .list (itemData items)
  | .object members => .object (memberData members)

def itemData : List Value → List Datum
  | [] => []
  | item :: others => datum item :: itemData others

def memberData : List (String × Value) → List (List Nat × Datum)
  | [] => []
  | (key, value) :: others => (units key, datum value) :: memberData others

end

theorem itemData_eq_map (items : List Value) : itemData items = items.map datum := by
  induction items with
  | nil => rfl
  | cons item others ih => rw [itemData, ih, List.map_cons]

theorem memberData_eq_map (members : List (String × Value)) :
    memberData members = members.map fun member => (units member.1, member.2.datum) := by
  induction members with
  | nil => rfl
  | cons member others ih => rw [memberData, ih, List.map_cons]

theorem member_spells (key : String) (datum : Datum) (text : List Char)
    (padded : Padded datum text) :
    SpellsMember (units key, datum) ((stringText key).toList ++ ':' :: text) := by
  have blank : Spaces [] := fun c member => absurd member List.not_mem_nil
  have member := SpellsMember.intro blank (escaped_spells key.toList) blank padded
  simpa [stringText, units] using member

mutual

theorem compact_spells (value : Value) : Spells value.datum value.compact.toList := by
  match value with
  | .boolean true => exact .true
  | .boolean false => exact .false
  | .text content => exact stringText_spells content
  | .list [] => exact .noItems fun c member => absurd member List.not_mem_nil
  | .list (item :: others) =>
    have spelled := items_spell (item :: others) (List.cons_ne_nil _ _)
    simpa [datum, compact] using Spells.items spelled
  | .object [] => exact .noMembers fun c member => absurd member List.not_mem_nil
  | .object (member :: others) =>
    have spelled := members_spell (member :: others) (List.cons_ne_nil _ _)
    simpa [datum, compact] using Spells.members spelled

theorem items_spell (items : List Value) (given : items ≠ []) :
    SpellsItems (itemData items) (",".intercalate (itemTexts items)).toList := by
  match items with
  | [] => exact absurd rfl given
  | [item] =>
    have padded := (compact_spells item).padded
    simpa [itemData, itemTexts] using SpellsItems.last padded
  | item :: next :: others =>
    have padded := (compact_spells item).padded
    have following := items_spell (next :: others) (List.cons_ne_nil _ _)
    simpa [itemData, itemTexts] using SpellsItems.more padded following

theorem members_spell (members : List (String × Value)) (given : members ≠ []) :
    SpellsMembers (memberData members) (",".intercalate (memberTexts members)).toList := by
  match members with
  | [] => exact absurd rfl given
  | [(key, value)] =>
    have member := member_spells key value.datum _ (compact_spells value).padded
    simpa [memberData, memberTexts] using SpellsMembers.last member
  | (key, value) :: next :: others =>
    have member := member_spells key value.datum _ (compact_spells value).padded
    have following := members_spell (next :: others) (List.cons_ne_nil _ _)
    simpa [memberData, memberTexts] using SpellsMembers.more member following

end

end Value

end RouteTemplate.Json
