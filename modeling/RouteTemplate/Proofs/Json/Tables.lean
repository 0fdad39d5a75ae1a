import RouteTemplate.Proofs.Json.Decoding
import RouteTemplate.Proofs.Json.Writing

namespace RouteTemplate.Json

abbrev Row := String × String

def Row.member (row : Row) : List Nat × Datum := (units row.1, .string row.2)

def Datum.table (rows : List Row) : Datum := .object (rows.map Row.member)

def takeRow (seen : List Row) (key : String) (value : Draft) : Except ReadError (List Row) := do
  return seen ++ [(key, ← value.string)]

def Draft.table : Draft → Except ReadError (List Row)
  | object members => members.foldM (fun _ key => .ok key) takeRow []
  | draft => draft.reject .map

theorem takeRow_eq_ok (before after : List Row) (key : String) (value : Draft) :
    takeRow before key value = .ok after ↔
      ∃ text, value.datum? = some (.string text) ∧ after = before ++ [(key, text)] := by
  simp only [takeRow, bind_eq_ok, Draft.string_eq_ok]
  simp only [pure, Except.pure, Except.ok.injEq, eq_comm]

theorem takeRows_eq_ok (members : Members) (before after : List Row) :
    members.foldM (fun _ key => .ok key) takeRow before = .ok after ↔
      ∃ rows : List Row, members.data? = some (rows.map Row.member) ∧ after = before ++ rows := by
  match members with
  | .stop ending =>
    rw [foldM_stop_eq_ok]
    constructor
    · intro ended
      obtain ⟨rfl, rfl⟩ := ended
      exact ⟨[], rfl, (List.append_nil _).symm⟩
    · intro found
      obtain ⟨rows, known, rfl⟩ := found
      obtain ⟨rfl, none⟩ := members_stop_data ending _ known
      rw [List.map_eq_nil_iff.mp none]
      exact ⟨rfl, List.append_nil _⟩
  | .member key value others =>
    rw [foldM_member_eq_ok]
    simp only [takeRow_eq_ok, takeRows_eq_ok others]
    constructor
    · intro accepted
      obtain ⟨name, _, _, knownKey, same, ⟨text, known, rfl⟩, rows, knownOthers, rfl⟩ := accepted
      cases same
      have data := (member_data_eq_some _ _ _ _).mpr
        ⟨_, _, _, knownKey, known, knownOthers, rfl⟩
      exact ⟨(name, text) :: rows, data, (List.append_cons _ _ _).symm⟩
    · intro found
      obtain ⟨rows, known, rfl⟩ := found
      obtain ⟨_, _, _, knownKey, knownValue, knownOthers, same⟩ :=
        (member_data_eq_some _ _ _ _).mp known
      obtain ⟨⟨name, text⟩, rest, rfl, first, rfl⟩ := List.map_eq_cons_iff.mp same
      cases first
      exact ⟨name, name, before ++ [(name, text)], knownKey, rfl, ⟨text, knownValue, rfl⟩, rest,
        knownOthers, List.append_cons _ _ _⟩

theorem table_reads : Reads Draft.table fun datum rows => datum = .table rows := by
  intro draft rows
  simp only [exists_eq_right]
  fun_cases Draft.table draft with
  | case1 members =>
    rw [takeRows_eq_ok, Datum.table, Draft.object_datum]
    simp
  | case2 _ other =>
    refine iff_of_false (reject_ne_ok .map draft rows) ?_
    intro known
    obtain ⟨members, same, _⟩ := (Draft.datum_eq_some _ _).mp known
    exact other members same

theorem row_spells (row : Row) (after : List Char) (blank : Spaces after) :
    SpellsMember row.member ('\n' :: (prettyMember row).toList ++ after) := by
  have indented : Spaces ['\n', ' ', ' '] := by decide
  have unspaced : Spaces [] := by decide
  have spaced : Spaces [' '] := by decide
  have value := Padded.intro spaced (stringText_spells row.2) blank
  have member := SpellsMember.intro indented (escaped_spells row.1.toList) unspaced value
  simpa [prettyMember, stringText, Row.member, units] using member

theorem rows_spell (rows : List Row) (given : rows ≠ []) :
    SpellsMembers (rows.map Row.member)
      ('\n' :: (",\n".intercalate (rows.map prettyMember)).toList ++ ['\n']) := by
  match rows with
  | [] => exact absurd rfl given
  | [row] =>
    have member := row_spells row ['\n'] (by decide)
    simpa using SpellsMembers.last member
  | row :: next :: others =>
    have member := row_spells row [] (by decide)
    have following := rows_spell (next :: others) (List.cons_ne_nil _ _)
    simpa using SpellsMembers.more member following

theorem prettyObject_spells (rows : List Row) :
    Spells (.table rows) (prettyObject rows).toList := by
  match rows with
  | [] =>
    have unspaced : Spaces [] := by decide
    exact Spells.noMembers unspaced
  | row :: others =>
    have spelled := Spells.members (rows_spell (row :: others) (List.cons_ne_nil _ _))
    simpa [prettyObject, Datum.table] using spelled

theorem read_prettyObject (rows : List Row) :
    read Draft.table (prettyObject rows ++ "\n") = .ok rows := by
  have unspaced : Spaces [] := by decide
  have ended : Spaces ['\n'] := by decide
  have padded := Padded.intro unspaced (prettyObject_spells rows) ended
  apply (read_eq_ok_iff Draft.table _ table_reads _ _).mpr
  refine ⟨.table rows, ?_, rfl⟩
  simpa using padded

end RouteTemplate.Json
