import Propositional.Proofs.JsonIntegers
import Propositional.Proofs.JsonTable
import Propositional.Proofs.Validation

namespace Propositional

namespace Text
open Json (isDigit digitsValue)

theorem is_digit_of_leading (cs : List Char) : ∀ c ∈ leadingDigits cs, isDigit c = true := by
  unfold leadingDigits
  split
  · split
    · simp
    · intro c hm
      rw [List.mem_singleton.mp hm]
      rfl
  · exact fun c hm => Json.is_digit_iff.mpr (List.all_eq_true.mp List.all_takeWhile c hm)

/-- Digits alone are read as the number that they write. -/
theorem read_digits_eq (hds : ∀ c ∈ ds, isDigit c = true)
    (h : readDigits asciiDigit? after m ds = some n) :
    n = ds.foldl (fun n c => n * 10 + (c.toNat - '0'.toNat)) m := by
  induction ds generalizing after m with
  | nil =>
    rw [readDigits] at h
    split at h
    · exact (Option.some.inj h).symm
    · cases h
  | cons c ds ih =>
    have hc := hds c List.mem_cons_self
    have hdigit : asciiDigit? c = some (c.toNat - '0'.toNat) := if_pos (Json.is_digit_iff.mp hc)
    have hline : ¬(c == '_') = true := by
      intro he
      rw [eq_of_beq he] at hc
      cases hc
    rw [readDigits, if_neg hline, hdigit, Option.bind_some] at h
    exact ih (fun d hm => hds d (List.mem_cons_of_mem _ hm)) h

theorem read_numeral_admits (cs : List Char) :
    Gives (readNumeral cs) Json.Tolerance.strict.Admits := by
  unfold readNumeral
  split
  rename_i negative body _
  have hdigits := is_digit_of_leading body
  dsimp only
  split
  · exact .error
  rename_i hne
  have hlength := Json.length_digits_value_le (mt List.isEmpty_iff.mpr hne) hdigits
  split
  · exact .error
  rename_i hlong
  split
  · exact .error
  split
  · rename_i n hn
    have hn : n = digitsValue (leadingDigits body) := read_digits_eq hdigits hn
    subst hn
    refine .ok (Json.admits_of_places (Json.exceeded_eq_none.mpr ?_) negative)
    intro limit hm
    cases hm
    exact Nat.le_trans hlength (Nat.le_of_not_lt hlong)
  · exact .error

theorem read_loose_numeral_admits (cs : List Char) :
    Gives (readLooseNumeral cs) Json.Tolerance.strict.Admits := by
  unfold readLooseNumeral
  split
  · rename_i n hn
    exact .ok ((read_numeral_admits cs).of_ok hn)
  · exact .error
  · split
    · exact read_numeral_admits _
    · exact .error

end Text

namespace TruthTable
open Json (Value)

theorem check_float_admits (x : Binary64) : Gives (checkFloat x) Json.Tolerance.strict.Admits := by
  unfold checkFloat
  split
  · split
    · rename_i n _ hn
      refine .ok (fun limit hm => ?_)
      cases hm
      have hbound : floatBound = 9223372036854775808 := rfl
      have hlt : n.natAbs < 10 ^ 19 := by omega
      have hlength := Nat.toDigits_length 10 n.natAbs 19 (by decide) hlt
      exact Nat.le_trans hlength (by decide)
    · exact .error
  · exact .error
  · exact .error

/-- A cell is an integer that is stored as it was read, or made of something short. -/
theorem check_cell_admits {v : Value} (h : v.Holds Json.Tolerance.strict.Admits) :
    Gives (checkCell v) Json.Tolerance.strict.Admits := by
  cases h with
  | null => exact .error
  | bool =>
    rename_i b
    cases b <;> exact .ok (by decide)
  | int hn => exact .ok hn
  | float => exact check_float_admits _
  | text =>
    rename_i s
    simp only [checkCell]
    split
    · rename_i n hn
      exact .ok ((Text.read_loose_numeral_admits s.toList).of_ok hn)
    · exact .error
    · exact .error
  | list => exact .error
  | object => exact .error

namespace Checked

theorem under_gives {checked : Checked α} (h : Gives checked good) (step : PathStep) :
    Gives (under step checked) good := by
  cases checked with
  | ok a => exact h
  | error issues => exact .error

theorem both_gives {first : Checked α} {second : Checked β} (h : Gives first good)
    (h' : Gives second good') : Gives (both first second) (fun p => good p.1 ∧ good' p.2) := by
  cases first with
  | error issues => cases second <;> exact .error
  | ok a =>
    cases second with
    | error issues => exact .error
    | ok b => exact .ok ⟨h.of_ok rfl, h'.of_ok rfl⟩

theorem items_gives {check : Value → Checked α} (h : ∀ v ∈ vs, Gives (check v) good) (i : Nat) :
    Gives (items check i vs) (fun as => ∀ a ∈ as, good a) := by
  induction vs generalizing i with
  | nil => exact .ok (by simp)
  | cons v vs ih =>
    have hrest := ih (fun u hm => h u (List.mem_cons_of_mem _ hm)) (i + 1)
    refine (both_gives (under_gives (h v List.mem_cons_self) (.index i)) hrest).map ?_
    exact fun p hp => List.forall_mem_cons.mpr hp

end Checked

theorem check_row_admits {v : Value} (h : v.Holds Json.Tolerance.strict.Admits) :
    Gives (Checked.list checkCell v)
      (fun row => ∀ cell ∈ row, Json.Tolerance.strict.Admits cell) := by
  cases h with
  | list h => exact Checked.items_gives (fun item hm => check_cell_admits (h item hm)) 0
  | null | bool | int | float | text | object => exact .error

theorem check_rows_admits {v : Value} (h : v.Holds Json.Tolerance.strict.Admits) :
    Gives (Checked.list (Checked.list checkCell) v)
      (fun rows => ∀ row ∈ rows, ∀ cell ∈ row, Json.Tolerance.strict.Admits cell) := by
  cases h with
  | list h => exact Checked.items_gives (fun item hm => check_row_admits (h item hm)) 0
  | null | bool | int | float | text | object => exact .error

theorem of_value_admits {v : Value} (h : v.Holds Json.Tolerance.strict.Admits) :
    Gives (ofValue v)
      (fun table => ∀ row ∈ table.rows, ∀ cell ∈ row, Json.Tolerance.strict.Admits cell) := by
  cases h with
  | object h =>
    rename_i fields
    have hrows : Gives (checkField fields "rows" (Checked.list (Checked.list checkCell)))
        (fun rows => ∀ row ∈ rows, ∀ cell ∈ row, Json.Tolerance.strict.Admits cell) := by
      refine Checked.under_gives ?_ _
      split
      · rename_i v hv
        obtain ⟨before, after, hfields, -⟩ := List.lookup_eq_some_iff.mp hv
        exact check_rows_admits (h ("rows", v) (by rw [hfields]; simp))
      · exact .error
    exact (Checked.both_gives Settles.anything hrows).map (fun _ hp => hp.2)
  | null | bool | int | float | text | list => exact .error

theorem of_json_admits (text : String) :
    Gives (ofJson text)
      (fun table => ∀ row ∈ table.rows, ∀ cell ∈ row, Json.Tolerance.strict.Admits cell) := by
  unfold ofJson
  split
  · rename_i v hv
    exact of_value_admits (Json.read_holds hv)
  · exact .error

/-- What is stored of a table as text is read back unless one of its integers is too long. -/
theorem of_json_compact {table : TruthTable}
    (h : ∀ row ∈ table.rows, ∀ cell ∈ row, Json.Tolerance.strict.Admits cell) :
    ofJson table.toValue.compact = .ok table := by
  have hreadable : Json.Readable .strict table.toValue := by
    refine .object (fun _ => by decide) (by simp) (fun field hm => ?_)
    simp only [List.mem_cons, List.not_mem_nil, or_false] at hm
    rcases hm with rfl | rfl
    · exact readable_list_map (by decide) (fun _ _ => .text)
    · exact readable_list_map (by decide) (fun row hrow =>
        readable_list_map (by decide) (fun cell hcell => .int (h row hrow cell hcell)))
  unfold ofJson Json.Value.compact
  rw [Json.read_chars hreadable .compact]
  exact of_value_to_value table

theorem of_json_compact_iff {table : TruthTable} :
    ofJson table.toValue.compact = .ok table ↔
      ∀ row ∈ table.rows, ∀ cell ∈ row, (toString cell.natAbs).length ≤ 4300 := by
  simp only [← Json.strict_admits_iff]
  exact ⟨fun h => (of_json_admits _).of_ok h, of_json_compact⟩

/-- What is stored of a table, as a value or as text, gives the same table again, however the table
came about: the integers that booleans, texts and floats have become stay what they are, and names
and the shape of the rows do not matter. The one exception is an integer of more than 4300 digits,
which the reader of texts refuses; a table that was read from a text has none. -/
theorem stores_back (table : TruthTable) :
    (∀ data, ofValue data = .ok table → ofValue table.toValue = .ok table) ∧
    (ofJson table.toValue.compact = .ok table ↔
      ∀ row ∈ table.rows, ∀ cell ∈ row, (toString cell.natAbs).length ≤ 4300) ∧
    ∀ text, ofJson text = .ok table → ofJson table.toValue.compact = .ok table :=
  ⟨fun _ _ => of_value_to_value table, of_json_compact_iff,
    fun text h => of_json_compact ((of_json_admits text).of_ok h)⟩

theorem stores_back_converted :
    ofValue (.object [("rows", .list [.list [.bool true, .text " +007.0 "], .list []]),
        ("variables", .list [.text "\"p\n"])]) = .ok ⟨["\"p\n"], [[1, 7], []]⟩ ∧
      ofValue (TruthTable.mk ["\"p\n"] [[1, 7], []]).toValue = .ok ⟨["\"p\n"], [[1, 7], []]⟩ ∧
      ofJson (TruthTable.mk ["\"p\n"] [[1, 7], []]).toValue.compact =
        .ok ⟨["\"p\n"], [[1, 7], []]⟩ := by
  obtain ⟨hvalue, hjson, _⟩ := stores_back ⟨["\"p\n"], [[1, 7], []]⟩
  have hdata : ofValue (.object [("rows", .list [.list [.bool true, .text " +007.0 "], .list []]),
      ("variables", .list [.text "\"p\n"])]) = .ok ⟨["\"p\n"], [[1, 7], []]⟩ := by
    decide +kernel
  exact ⟨hdata, hvalue _ hdata, hjson.mpr (by decide)⟩

/-- A value may hold a longer integer than a text. -/
theorem stores_back_long :
    ofValue (.object [("variables", .list []), ("rows", .list [.list [.int (10 ^ 4300)]])]) =
        .ok ⟨[], [[10 ^ 4300]]⟩ ∧
      ofJson (TruthTable.mk [] [[10 ^ 4300]]).toValue.compact ≠ .ok ⟨[], [[10 ^ 4300]]⟩ := by
  refine ⟨of_value_to_value ⟨[], [[10 ^ 4300]]⟩, fun h => Json.not_strict_admits ?_⟩
  exact (of_json_admits _).of_ok h _ List.mem_cons_self _ List.mem_cons_self

end TruthTable
end Propositional
