import Propositional.Proofs.Configuration
import Propositional.Proofs.JsonText
import Propositional.Proofs.Reading

namespace Propositional

theorem Text.unify_line_breaks_eq_self (h : '\r' ∉ cs) : unifyLineBreaks cs = cs := by
  fun_induction unifyLineBreaks cs with
  | case1 | case2 => exact absurd List.mem_cons_self h
  | case3 c rest _ _ ih => rw [ih (fun hc => h (List.mem_cons_of_mem _ hc))]
  | case4 => rfl

namespace Json

/-- No carriage return is written as it is. -/
theorem return_not_mem_encode_text (s : String) : '\r' ∉ encodeText s := by
  have hhex : ∀ n < 32, '\r' ∉ Text.hex 4 n := by decide +kernel
  have hchar : ∀ c, '\r' ∉ encodeChar c := by
    intro c
    unfold encodeChar
    split
    case h_8 _ _ _ hreturn _ _ _ =>
      split
      · next hcontrol => simp [hhex c.toNat hcontrol]
      · rw [List.mem_singleton]
        exact fun h => hreturn h.symm
    all_goals decide
  simp [encodeText, hchar]

theorem return_not_mem_line_break (layout : Layout) : '\r' ∉ layout.lineBreak := by
  cases layout <;> simp [Layout.lineBreak]

theorem return_not_mem_bracket {layout : Layout} {parts : List (List Char)}
    (hsides : '\r' ≠ left ∧ '\r' ≠ right) (h : ∀ part ∈ parts, '\r' ∉ part) :
    '\r' ∉ layout.bracket left right parts := by
  cases parts with
  | nil => simp [Layout.bracket, hsides]
  | cons first rest =>
    rw [List.forall_mem_cons] at h
    simp only [Layout.bracket, List.cons_append, List.mem_cons, List.mem_append, List.mem_flatMap,
      return_not_mem_line_break, hsides, h.1, false_or, or_false, List.not_mem_nil, not_exists,
      not_and]
    intro part hpart
    simp [h.2 part hpart]

theorem Readable.return_not_mem (h : Readable t v) (layout : Layout) : '\r' ∉ v.chars layout := by
  induction h generalizing layout with
  | null => exact (by decide : '\r' ∉ "null".toList)
  | @bool _ b =>
    cases b with
    | false => exact (by decide : '\r' ∉ "false".toList)
    | true => exact (by decide : '\r' ∉ "true".toList)
  | int =>
    intro hc
    rcases Text.mem_int_chars hc with h | h <;> cases h
  | text => exact return_not_mem_encode_text _
  | list _ _ ih =>
    rw [Value.chars, item_chars_eq_map]
    exact return_not_mem_bracket (by decide) (List.forall_mem_map.mpr (fun item hm => ih item hm _))
  | object _ _ _ ih =>
    rw [Value.chars, field_chars_eq_map]
    refine return_not_mem_bracket (by decide) (List.forall_mem_map.mpr (fun field hm => ?_))
    have hcolon : ∀ layout : Layout, '\r' ∉ layout.colon := by
      intro layout
      cases layout <;> simp [Layout.colon]
    simp [fieldText, return_not_mem_encode_text, hcolon, ih field hm]

end Json

namespace Settings

theorem text_of_points (text : String) : textOf? (Json.Value.points (.text text)) = some text :=
  Text.text_points text

theorem check_names (limit level format : Json.Value) :
    checkNames (Json.Value.fieldPoints
      [(limitName, limit), (levelName, level), (formatName, format)]) = .ok () := by
  simp only [Json.Value.fieldPoints, checkNames, Text.text_points]
  rfl

section
variable [Interpreter] {s : Settings}

theorem Usable.check_limit (h : s.Usable) : checkLimit s.limit.toValue.points = .ok s.limit := by
  cases hlimit : s.limit with
  | flag => rfl
  | count n =>
    obtain ⟨hpos, hmax⟩ := hlimit ▸ h.limit
    have hn : (0 : Int) < n ∧ (n : Int) ≤ longestLimit := by
      simp only [Limit.number, longestLimit] at hpos hmax ⊢
      omega
    rw [checkLimit, Limit.toValue, Json.Value.points, Limit.ofValue?, if_pos hn]
    rfl

theorem Usable.check_level (h : s.Usable) :
    checkLevel (Json.Value.points (.text s.logLevel)) = .ok s.logLevel := by
  obtain ⟨n, hn, -⟩ := h.level
  have hsome : (Log.level? s.logLevel).isSome = true := by
    rw [Log.level?, hn]
    rfl
  have hfilter : (some s.logLevel).filter (fun name => (Log.level? name).isSome) =
      some s.logLevel := if_pos hsome
  rw [checkLevel, text_of_points, hfilter]

theorem check_format_name (format : Format) :
    checkFormat (Json.Value.points (.text format.name)) = .ok format := by
  have hname : Format.ofName? format.name = some format := by cases format <;> rfl
  rw [checkFormat, text_of_points, Option.bind_some, hname]

/-- The value of settings is made into the same settings again. -/
theorem of_value_to_value (h : s.Usable) : ofValue s.toValue.points = .ok s := by
  change (checkNames _ >>= fun _ => checkLimit s.limit.toValue.points >>= fun limit =>
    checkLevel (Json.Value.points (.text s.logLevel)) >>= fun level =>
    checkFormat (Json.Value.points (.text s.format.name)) >>= fun format =>
    pure (Settings.mk limit level format)) = _
  rw [check_names, h.check_limit, h.check_level, check_format_name]
  rfl

/-- The limit is too small a number to be too long for a reader. -/
theorem Usable.admits (h : s.Usable) (hlimit : s.limit = .count n) :
    Json.Tolerance.lenient.inside.Admits n := by
  have hmax : n ≤ 512 := (hlimit ▸ h.limit).2
  have hlength := Nat.toDigits_length 10 n 3 (by decide) (by omega)
  intro limit hdigits
  have hroom := Interpreter.digits_room limit hdigits
  rw [Int.natAbs_natCast]
  omega

theorem readable_to_value (h : s.Usable) : Json.Readable .lenient s.toValue := by
  have hnames : [limitName, levelName, formatName].Nodup := by decide
  have hroom : Json.Tolerance.lenient.depth ≠ 0 :=
    Nat.pos_iff_ne_zero.mp (Nat.lt_of_lt_of_le (by decide) Interpreter.containers_room)
  refine .object (fun _ => hroom) hnames (fun field hm => ?_)
  simp only [List.mem_cons, List.not_mem_nil, or_false] at hm
  rcases hm with rfl | rfl | rfl
  · cases hlimit : s.limit with
    | flag => exact .bool
    | count n => exact .int (h.admits hlimit)
  · exact .text
  · exact .text

theorem of_json_to_json (h : s.Usable) : ofJson s.toJson = .ok s := by
  have hparse : Json.parse .lenient s.toJson = .ok s.toValue.points :=
    Json.parse_chars (readable_to_value h) (.indented 0)
  rw [ofJson, hparse]
  exact of_value_to_value h

end

end Settings

namespace Files

/-- Missing folders on the way to a path can be made, and then a file be opened there. -/
def Writable [Interpreter] (files : Files) (path : String) : Prop :=
  ∃ made place, files.makeParent (simplify path) = .ok made ∧ made.Opens (simplify path) place

theorem read_text_of_open {files : Files} (h : files.open? path = .ok (.text text))
    (hreturn : '\r' ∉ text.toList) : files.readText path = .ok text := by
  rw [readText, h]
  change Except.ok (String.ofList (Text.unifyLineBreaks text.toList)) = _
  rw [Text.unify_line_breaks_eq_self hreturn, String.ofList_toList]

end Files

namespace Settings
open Files (Writable Reopens simplify)

section
variable [Interpreter]

theorem load_of_open {s : Settings} (h : s.Usable) {files : Files}
    (hopen : files.open? path = .ok (.text s.toJson)) : load files path = .ok s := by
  have hreturn : '\r' ∉ s.toJson.toList := by
    have hchars := (readable_to_value h).return_not_mem (.indented 0)
    rwa [toJson, Json.Value.indented, String.toList_ofList]
  simp only [load, Files.read_text_of_open hopen hreturn, Except.mapError, bind, Except.bind]
  exact of_json_to_json h

theorem save_eq_ok_iff {s : Settings} {files : Files} : s.save files path = .ok saved ↔
    ∃ made place, files.makeParent (simplify path) = .ok made ∧
      made.Opens (simplify path) place ∧ saved = made.put place (.file (.text s.toJson)) := by
  cases hmade : files.makeParent (simplify path) with
  | error e =>
    simp only [save, hmade, bind, Except.bind]
    exact iff_of_false nofun (fun ⟨_, _, h, _⟩ => nomatch h)
  | ok made =>
    simp only [save, hmade, bind, Except.bind, Except.ok.injEq, exists_and_left, exists_eq_left']
    exact Files.write_eq_ok_iff

/-- A path can be written just if any settings can be saved there. -/
theorem writable_iff (s : Settings) (files : Files) (path : String) :
    files.Writable path ↔ ∃ saved, s.save files path = .ok saved := by
  constructor
  · rintro ⟨made, place, hmade, hopens⟩
    exact ⟨_, save_eq_ok_iff.mpr ⟨made, place, hmade, hopens, rfl⟩⟩
  · rintro ⟨saved, hsaved⟩
    obtain ⟨made, place, hmade, hopens, -⟩ := save_eq_ok_iff.mp hsaved
    exact ⟨made, place, hmade, hopens⟩

/-- Settings are saved at every path that can be written, and are read back, with the spelling of
their level, from the simple form of the path. The path as it is reads them back if it can be opened
so, which it cannot if it ends as the path of a folder does. -/
theorem load_of_save {s : Settings} (h : Built (.ok s)) {files : Files}
    (hpath : files.Writable path) :
    ∃ saved, s.save files path = .ok saved ∧ load saved (simplify path) = .ok s ∧
      (Reopens path → load saved path = .ok s) ∧
      (¬Reopens path → ∃ e, load saved path = .error (.unreadable (.file e))) := by
  have husable : s.Usable := h.settles
  obtain ⟨made, place, hmade, hopens⟩ := hpath
  have hsimple := hopens.open_put (.text s.toJson)
  refine ⟨_, save_eq_ok_iff.mpr ⟨made, place, hmade, hopens, rfl⟩, load_of_open husable hsimple,
    ?_, ?_⟩
  · intro hreopens
    exact load_of_open husable (Files.open_of_reopens hopens.leading hreopens hsimple)
  · intro hreopens
    cases hopen : Files.open? (made.put place (.file (.text s.toJson))) path with
    | ok content => exact absurd (Files.reopens_of_open hopens.leading.ne_empty hopen) hreopens
    | error e =>
      refine ⟨e, ?_⟩
      rw [load, Files.readText, hopen]
      rfl

end

/-- A limit that is a truth value, a level in letters of its own, and a path with more than its
simple form. -/
theorem load_of_save_flag :
    Built (.ok ⟨.flag, "ınfO", .html⟩) ∧ Files.Writable ⟨[]⟩ "a//b/./s.json" ∧
      ∃ saved, save ⟨.flag, "ınfO", .html⟩ ⟨[]⟩ "a//b/./s.json" = .ok saved ∧
        load saved "a//b/./s.json" = .ok ⟨.flag, "ınfO", .html⟩ := by
  have hbuilt : Built (.ok ⟨.flag, "ınfO", .html⟩) := by
    have hfields : ofFields [("max_input_length", .bool true), ("log_level", .text "ınfO"),
        ("output_format", .text "html")] = .ok ⟨.flag, "ınfO", .html⟩ := rfl
    rw [← hfields]
    exact .keywords _
  have hwritable : Files.Writable ⟨[]⟩ "a//b/./s.json" := by
    refine ⟨⟨[(["a", "b"], .folder)]⟩, ["a", "b", "s.json"], ?_, ?_, ?_⟩ <;> decide +kernel
  have hreopens : Reopens "a//b/./s.json" := by
    refine ⟨?_, "s.json", ?_, ?_⟩ <;> decide +kernel
  obtain ⟨saved, hsave, -, hload, -⟩ := load_of_save hbuilt hwritable
  exact ⟨hbuilt, hwritable, saved, hsave, hload hreopens⟩

/-- Settings that are saved at `s.json/` are not found there. -/
theorem slashed_path_not_reloaded : Built (.ok initial) ∧
    ∃ saved, initial.save ⟨[]⟩ "s.json/" = .ok saved ∧
      load saved "s.json/" = .error (.unreadable (.file (.failed .notDirectory "s.json/"))) := by
  have hbuilt : Built (.ok initial) := by
    have hfields : ofFields [] = .ok initial := rfl
    rw [← hfields]
    exact .keywords []
  refine ⟨hbuilt, ⟨[(["s.json"], .file (.text initial.toJson))]⟩, by decide +kernel, ?_⟩
  have hread : Files.readText ⟨[(["s.json"], .file (.text initial.toJson))]⟩ "s.json/" =
      .error (.file (.failed .notDirectory "s.json/")) := by
    decide +kernel
  rw [load, hread]
  rfl

end Settings
end Propositional
