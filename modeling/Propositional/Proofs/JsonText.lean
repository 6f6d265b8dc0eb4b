import Mathlib.Data.List.Nodup
import Mathlib.Data.List.TakeDrop
import Propositional.Json.Reader
import Propositional.Json.Writer
import Propositional.Proofs.Decimals
import Propositional.Proofs.PlainTexts

namespace Propositional.Json
open Text (CodePoint points_injective)
open Value (fieldOfPoints)

theorem string_body_quote : stringBody t start ('"' :: rest) = .ok ([], rest) := by
  rw [stringBody.eq_def]
  rfl

theorem string_body_plain (hquote : c ≠ '"') (hcontrol : ¬c.toNat < 0x20) (hc : c ≠ '\\') :
    stringBody t start (c :: rest) = consPoint (.char c) (stringBody t start rest) := by
  rw [stringBody.eq_def]
  exact (if_neg hquote).trans ((if_neg hcontrol).trans (if_pos hc))

theorem string_body_escape (h : escaped? e = some c) :
    stringBody t start ('\\' :: e :: rest) = consPoint (.char c) (stringBody t start rest) := by
  have hu : e ≠ 'u' := by
    rintro rfl
    cases h
  rw [stringBody.eq_def]
  simp [h, hu]

theorem string_body_unit (hunit : codeUnit? a b c d = some unit)
    (hpoint : unicodePoint t unit (next :: rest) = .ok (p, 0)) :
    stringBody t start ('\\' :: 'u' :: a :: b :: c :: d :: next :: rest) =
      consPoint p (stringBody t start (next :: rest)) := by
  rw [stringBody.eq_def]
  simp [hunit, hpoint]

/-- The code unit of a control is written with two zeros and two more digits. -/
theorem code_unit_control : ∀ n < 0x20,
    Text.hex 4 n = ['0', '0', Nat.digitChar (n / 16), Nat.digitChar (n % 16)] ∧
      codeUnit? '0' '0' (Nat.digitChar (n / 16)) (Nat.digitChar (n % 16)) = some n := by
  decide

theorem unicode_point_control (c : Char) (h : c.toNat < 0x20) (after : List Char) :
    unicodePoint t c.toNat after = .ok (.char c, 0) := by
  have hhigh : isHighSurrogate c.toNat = false := by
    simp [isHighSurrogate]
    omega
  have hvalid : c.toNat.isValidChar := c.valid
  simp [unicodePoint, unitPoint?, hhigh, hvalid]

/-- An escape needs a character behind it. -/
theorem string_body_encode_char (c : Char) (h : after ≠ []) :
    stringBody t start (encodeChar c ++ after) =
      consPoint (.char c) (stringBody t start after) := by
  unfold encodeChar
  split
  case h_8 hquote hbackslash _ _ _ _ _ =>
    by_cases hc : c.toNat < 0x20
    · obtain ⟨hhex, hunit⟩ := code_unit_control c.toNat hc
      obtain ⟨next, after, rfl⟩ := List.exists_cons_of_ne_nil h
      rw [if_pos hc, hhex]
      exact string_body_unit hunit (unicode_point_control c hc _)
    · rw [if_neg hc]
      exact string_body_plain hquote hc hbackslash
  all_goals exact string_body_escape rfl

theorem string_body_text (s rest : List Char) :
    stringBody t start (s.flatMap encodeChar ++ '"' :: rest) =
      .ok (s.map CodePoint.char, rest) := by
  induction s with
  | nil => exact string_body_quote
  | cons c s ih =>
    rw [List.flatMap_cons, List.append_assoc, string_body_encode_char c (by simp), ih]
    rfl

theorem is_digit_of_decimal (h : c ∈ Nat.toDigits 10 n) : isDigit c = true := by
  have hd := Text.digit_of_decimal h
  rw [Char.isDigit, Bool.and_eq_true, decide_eq_true_iff, decide_eq_true_iff] at hd
  rw [isDigit, Bool.and_eq_true, decide_eq_true_iff, decide_eq_true_iff]
  exact hd

theorem digits_value_decimal (n : Nat) : digitsValue (Nat.toDigits 10 n) = n := by
  have hvalue : digitsValue (Nat.toDigits 10 n) = Nat.ofDigitChars 10 (Nat.toDigits 10 n) 0 := by
    simp only [digitsValue, Nat.ofDigitChars, Nat.mul_comm]
  rw [hvalue, Nat.ofDigitChars_ten_toDigits]

/-- The end of a number: no character comes that would carry it on. -/
def EndsNumber (rest : List Char) : Prop :=
  ∀ c ∈ rest.head?, isDigit c = false ∧ c ≠ '.' ∧ c ≠ 'e' ∧ c ≠ 'E'

theorem ends_number_cons (h : isDigit c = false ∧ c ≠ '.' ∧ c ≠ 'e' ∧ c ≠ 'E') :
    EndsNumber (c :: rest) := by
  intro d hd
  exact Option.some.inj hd ▸ h

theorem fraction_of_ends (h : EndsNumber rest) : fraction rest = ([], rest) := by
  unfold fraction
  split
  · exact absurd rfl (h '.' rfl).2.1
  · rfl

theorem exponent_of_ends (h : EndsNumber rest) : exponent rest = (none, rest) := by
  cases rest with
  | nil => rfl
  | cons c rest =>
    have hc := h c rfl
    exact if_pos ⟨hc.2.2.1, hc.2.2.2⟩

theorem span_of_ends (hds : ∀ c ∈ ds, isDigit c = true) (h : EndsNumber rest) :
    (ds ++ rest).span isDigit = (ds, rest) := by
  have hrest : rest.takeWhile isDigit = [] ∧ rest.dropWhile isDigit = rest := by
    cases rest with
    | nil => exact ⟨rfl, rfl⟩
    | cons c rest => simp [(h c rfl).1]
  rw [List.span_eq_takeWhile_dropWhile, List.takeWhile_append_of_pos hds,
    List.dropWhile_append_of_pos hds, hrest.1, hrest.2, List.append_nil]

/-- No number of several digits begins with a zero. -/
theorem whole_part_of_ends (n : Nat) (h : EndsNumber rest) :
    wholePart (Nat.toDigits 10 n ++ rest) = (Nat.toDigits 10 n, rest) := by
  rcases Nat.eq_zero_or_pos n with rfl | hn
  · rfl
  · unfold wholePart
    split
    case h_1 hzero =>
      refine absurd ?_ (Text.head_decimal hn)
      obtain ⟨d, ds, hds⟩ := List.exists_cons_of_ne_nil (Nat.toDigits_ne_nil (b := 10) (n := n))
      rw [hds, List.cons_append] at hzero
      rw [hds, (List.cons.inj hzero).1]
      rfl
    case h_2 => exact span_of_ends (fun c => is_digit_of_decimal) h

theorem minus_decimal (n : Nat) (rest : List Char) :
    minus (Nat.toDigits 10 n ++ rest) = (false, Nat.toDigits 10 n ++ rest) := by
  unfold minus
  split
  case h_1 hminus =>
    obtain ⟨d, ds, hds⟩ := List.exists_cons_of_ne_nil (Nat.toDigits_ne_nil (b := 10) (n := n))
    rw [hds, List.cons_append] at hminus
    rw [(List.cons.inj hminus).1] at hds
    exact absurd hds Text.decimal_ne_negative
  case h_2 => rfl

theorem minus_int (n : Int) (rest : List Char) :
    minus ((toString n).toList ++ rest) = (decide (n < 0), Nat.toDigits 10 n.natAbs ++ rest) := by
  rw [Text.int_chars]
  by_cases hn : n < 0
  · rw [if_pos hn, decide_eq_true hn]
    rfl
  · rw [if_neg hn, decide_eq_false hn]
    exact minus_decimal n.natAbs rest

/-- The integers that are short enough to be read. -/
def Tolerance.Admits (t : Tolerance) (n : Int) : Prop :=
  ∀ limit ∈ t.digits, (Nat.toDigits 10 n.natAbs).length ≤ limit

instance (t : Tolerance) (n : Int) : Decidable (t.Admits n) :=
  Option.decidableForallMem t.digits

theorem exceeded_eq_none {t : Tolerance} :
    t.exceeded? places = none ↔ ∀ limit ∈ t.digits, places ≤ limit := by
  rw [Tolerance.exceeded?, Option.filter_eq_none_iff]
  simp

theorem number_int {t : Tolerance} (hn : t.Admits n) (h : EndsNumber rest) :
    number t ((toString n).toList ++ rest) = .ok (.int n, rest) := by
  have hdigits : ¬(Nat.toDigits 10 n.natAbs).isEmpty = true := by
    rw [List.isEmpty_iff]
    exact Nat.toDigits_ne_nil
  have hplain : (([] : List Char).isEmpty && (none : Option Int).isNone) = true := rfl
  have hsign : (if decide (n < 0) = true then -(n.natAbs : Int) else n.natAbs) = n := by
    simp only [decide_eq_true_iff]
    split <;> omega
  unfold number
  simp only [minus_int, whole_part_of_ends _ h, if_neg hdigits, fraction_of_ends h,
    exponent_of_ends h, exceeded_eq_none.mpr hn, digits_value_decimal]
  split
  case h_1 heq => cases heq
  case h_2 => rw [if_pos hplain, hsign]

/-- What may stand between the parts of a text. -/
def isBlank (c : Char) : Bool := c == ' ' || c == '\t' || c == '\n' || c == '\r'

theorem skip_blanks_cons (h : isBlank c = false) : skipBlanks (c :: cs) = c :: cs :=
  List.dropWhile_cons_of_neg (by simpa [isBlank] using h)

theorem skip_blanks_line_break (layout : Layout) (cs : List Char) :
    skipBlanks (layout.lineBreak ++ cs) = skipBlanks cs := by
  cases layout with
  | compact => rfl
  | indented depth =>
    refine List.dropWhile_append_of_pos (fun c hm => ?_)
    rcases List.mem_cons.mp hm with rfl | hm
    · rfl
    · rw [(List.mem_replicate.mp hm).2]
      rfl

theorem ends_number_line_break (layout : Layout) (h : EndsNumber cs) :
    EndsNumber (layout.lineBreak ++ cs) := by
  cases layout with
  | compact => exact h
  | indented depth => exact ends_number_cons (by decide)

/-- A text at whose start a value or a name can stand. -/
def Begins (cs : List Char) : Prop :=
  ∃ c rest, cs = c :: rest ∧ isBlank c = false ∧ c ≠ ']' ∧ c ≠ '}' ∧ c ≠ '\ufeff'

theorem Begins.skip_blanks (h : Begins cs) (after : List Char) :
    skipBlanks (cs ++ after) = cs ++ after := by
  obtain ⟨c, rest, rfl, hc, -⟩ := h
  exact skip_blanks_cons hc

theorem Begins.ne_close (h : Begins cs) :
    cs ++ after ≠ ']' :: rest ∧ cs ++ after ≠ '}' :: rest := by
  obtain ⟨c, cs, rfl, -, hlist, hobject, -⟩ := h
  exact ⟨fun he => hlist (List.cons.inj he).1, fun he => hobject (List.cons.inj he).1⟩

theorem item_chars_eq_map (layout : Layout) (items : List Value) :
    Value.itemChars layout items = items.map (Value.chars layout) := by
  induction items with
  | nil => rfl
  | cons item items ih => rw [Value.itemChars, ih, List.map_cons]

/-- What is written of one field. -/
def fieldText (layout : Layout) (field : String × Value) : List Char :=
  encodeText field.1 ++ layout.colon ++ field.2.chars layout

theorem field_chars_eq_map (layout : Layout) (fields : List (String × Value)) :
    Value.fieldChars layout fields = fields.map (fieldText layout) := by
  induction fields with
  | nil => rfl
  | cons field fields ih => rw [Value.fieldChars, ih, List.map_cons, fieldText]

/-- The values that a reader finds again in what is written of them: no floats, no integer that
is too long, no more containers around a value than are allowed, and no name twice. -/
inductive Readable : Tolerance → Value → Prop
  | null : Readable t .null
  | bool : Readable t (.bool b)
  | int {t : Tolerance} (h : t.Admits n) : Readable t (.int n)
  | text : Readable t (.text s)
  | list {t : Tolerance} (hdepth : items ≠ [] → t.depth ≠ 0)
    (h : ∀ item ∈ items, Readable t.inside item) : Readable t (.list items)
  | object {t : Tolerance} (hdepth : fields ≠ [] → t.depth ≠ 0)
    (hnames : (fields.map Prod.fst).Nodup)
    (h : ∀ field ∈ fields, Readable t.inside field.2) : Readable t (.object fields)

theorem bracket_begins (layout : Layout) (parts : List (List Char))
    (h : left = '[' ∨ left = '{') : Begins (layout.bracket left right parts) := by
  have hleft : isBlank left = false ∧ left ≠ ']' ∧ left ≠ '}' ∧ left ≠ '\ufeff' := by
    rcases h with rfl | rfl <;> decide
  cases parts with
  | nil => exact ⟨left, [right], rfl, hleft⟩
  | cons part parts => exact ⟨left, _, rfl, hleft⟩

theorem int_head (n : Int) : ∃ d ds, d.isDigit = true ∧
    ((toString n).toList = d :: ds ∨ (toString n).toList = '-' :: d :: ds) := by
  obtain ⟨d, ds, hds⟩ :=
    List.exists_cons_of_ne_nil (Nat.toDigits_ne_nil (b := 10) (n := n.natAbs))
  refine ⟨d, ds, Text.digit_of_decimal (hds ▸ List.mem_cons_self), ?_⟩
  rw [Text.int_chars, hds]
  split
  · exact .inr rfl
  · exact .inl rfl

theorem digit_ne {c d : Char} (hd : d.isDigit = true) (hc : c.isDigit = false) : d ≠ c :=
  fun h => Bool.false_ne_true (hc.symm.trans (h ▸ hd))

theorem blank_of_digit {d : Char} (hd : d.isDigit = true) : isBlank d = false := by
  simp (disch := decide) [isBlank, digit_ne hd]

theorem int_begins (n : Int) : Begins (toString n).toList := by
  obtain ⟨d, ds, hd, h | h⟩ := int_head n
  · exact ⟨d, ds, h, blank_of_digit hd, digit_ne hd rfl, digit_ne hd rfl, digit_ne hd rfl⟩
  · exact ⟨'-', d :: ds, h, by decide⟩

theorem text_begins (s : String) (after : List Char) : Begins (encodeText s ++ after) :=
  ⟨'"', _, rfl, by decide⟩

theorem Readable.begins {v : Value} (h : Readable t v) (layout : Layout) :
    Begins (v.chars layout) := by
  cases h with
  | null => exact ⟨'n', _, rfl, by decide⟩
  | bool =>
    rename_i b
    cases b
    · exact ⟨'f', _, rfl, by decide⟩
    · exact ⟨'t', _, rfl, by decide⟩
  | int h => exact int_begins _
  | text => exact ⟨'"', _, rfl, by decide⟩
  | list => exact bracket_begins layout _ (.inl rfl)
  | object => exact bracket_begins layout _ (.inr rfl)

/-- A value is read whatever follows it, if that does not carry on a number. -/
def Reads (t : Tolerance) (v : Value) : Prop :=
  ∀ layout fuel rest, 2 * (v.chars layout).length ≤ fuel → EndsNumber rest →
    value t fuel (v.chars layout ++ rest) = .ok (v.points, rest)

/-- Parts that stand behind the first one, and the bracket that closes. -/
def tailChars (layout : Layout) (right : Char) (parts : List (List Char)) : List Char :=
  parts.flatMap (fun part => ',' :: layout.deeper.lineBreak ++ part) ++ layout.lineBreak ++ [right]

theorem bracket_cons (layout : Layout) (part : List Char) (parts : List (List Char)) :
    layout.bracket left right (part :: parts) =
      left :: layout.deeper.lineBreak ++ part ++ tailChars layout right parts := by
  simp [Layout.bracket, tailChars]

theorem skip_tail_nil (layout : Layout) (hright : isBlank right = false) :
    skipBlanks (tailChars layout right [] ++ rest) = right :: rest := by
  rw [tailChars, List.flatMap_nil, List.nil_append, List.append_assoc, skip_blanks_line_break]
  exact skip_blanks_cons hright

theorem skip_tail_cons (layout : Layout) (part : List Char) (parts : List (List Char)) :
    skipBlanks (tailChars layout right (part :: parts) ++ rest) =
      ',' :: (layout.deeper.lineBreak ++ (part ++ (tailChars layout right parts ++ rest))) := by
  simp only [tailChars, List.flatMap_cons, List.cons_append, List.append_assoc]
  exact skip_blanks_cons (by decide)

theorem ends_number_tail (layout : Layout) (parts : List (List Char))
    (h : EndsNumber (right :: rest)) : EndsNumber (tailChars layout right parts ++ rest) := by
  cases parts with
  | nil =>
    rw [tailChars, List.flatMap_nil, List.nil_append, List.append_assoc]
    exact ends_number_line_break layout h
  | cons part parts => exact ends_number_cons (by decide)

theorem length_tail_cons (right : Char) (layout : Layout) (part : List Char)
    (parts : List (List Char)) :
    (tailChars layout right parts).length + part.length <
      (tailChars layout right (part :: parts)).length := by
  simp only [tailChars, List.flatMap_cons, List.length_append, List.length_cons]
  omega

/-- One step along a list: its first value is read, and then what stands behind it. -/
theorem elements_step (h : Reads t item) (layout : Layout)
    (hfuel : 2 * (item.chars layout).length ≤ fuel) (hends : EndsNumber after) :
    elements t (fuel + 1) (item.chars layout ++ after) =
      match skipBlanks after with
      | ']' :: rest => .ok ([item.points], rest)
      | ',' :: rest =>
        (elements t fuel (skipBlanks rest)).map (fun (items, rest) => (item.points :: items, rest))
      | rest => .error ⟨.commaExpected, rest⟩ := by
  rw [elements, h layout fuel after hfuel hends]
  rfl

theorem elements_chars {items : List Value} (h : ∀ item ∈ first :: items, Reads t item)
    (hbegins : ∀ item ∈ items, ∀ layout, Begins (item.chars layout)) (layout : Layout)
    (hfuel : 2 * ((first.chars layout.deeper).length +
      (tailChars layout ']' (items.map (Value.chars layout.deeper))).length) < fuel) :
    elements t fuel (first.chars layout.deeper ++
      (tailChars layout ']' (items.map (Value.chars layout.deeper)) ++ rest)) =
      .ok ((first :: items).map Value.points, rest) := by
  obtain ⟨fuel, rfl⟩ : ∃ n, fuel = n + 1 := ⟨fuel - 1, by omega⟩
  have hends : ∀ parts, EndsNumber (tailChars layout ']' parts ++ rest) := fun parts =>
    ends_number_tail layout parts (ends_number_cons (by decide))
  induction items generalizing first fuel with
  | nil =>
    rw [elements_step (h first List.mem_cons_self) layout.deeper (by omega) (hends _),
      List.map_nil, skip_tail_nil layout (by decide)]
    rfl
  | cons item items ih =>
    have hshorter := length_tail_cons ']' layout (item.chars layout.deeper)
      (items.map (Value.chars layout.deeper))
    rw [List.map_cons] at hfuel ⊢
    obtain ⟨fuel, rfl⟩ : ∃ n, fuel = n + 1 := ⟨fuel - 1, by omega⟩
    have hrest := ih (fun i hm => h i (List.mem_cons_of_mem _ hm))
      (fun i hm => hbegins i (List.mem_cons_of_mem _ hm)) fuel (by omega)
    rw [elements_step (h first List.mem_cons_self) layout.deeper (by omega) (hends _),
      skip_tail_cons]
    simp only [skip_blanks_line_break, (hbegins item List.mem_cons_self _).skip_blanks _, hrest]
    rfl

theorem encode_text_append (s : String) (after : List Char) :
    encodeText s ++ after = '"' :: (s.toList.flatMap encodeChar ++ '"' :: after) := by
  simp [encodeText]

theorem skip_colon (layout : Layout) (h : Begins cs) (rest : List Char) :
    ∃ after, skipBlanks (layout.colon ++ (cs ++ rest)) = ':' :: after ∧
      skipBlanks after = cs ++ rest := by
  cases layout with
  | compact => exact ⟨cs ++ rest, skip_blanks_cons (by decide), h.skip_blanks _⟩
  | indented depth => exact ⟨' ' :: (cs ++ rest), skip_blanks_cons (by decide), h.skip_blanks _⟩

theorem field_begins (layout : Layout) (field : String × Value) :
    Begins (fieldText layout field) := by
  rw [fieldText, List.append_assoc]
  exact text_begins field.1 _

/-- One step along an object: its first field is read, and then what stands behind it. -/
theorem members_step (h : Reads t field.2) (layout : Layout)
    (hbegins : Begins (field.2.chars layout)) (hfuel : 2 * (fieldText layout field).length ≤ fuel)
    (hends : EndsNumber after) :
    members t (fuel + 1) (fieldText layout field ++ after) =
      match skipBlanks after with
      | '}' :: rest => .ok ([fieldOfPoints field], rest)
      | ',' :: rest =>
        (members t fuel (skipBlanks rest)).map (fun (fields, rest) =>
          (fieldOfPoints field :: fields, rest))
      | rest => .error ⟨.commaExpected, rest⟩ := by
  have hshorter : (field.2.chars layout).length ≤ (fieldText layout field).length := by
    rw [fieldText, List.length_append]
    omega
  obtain ⟨behind, hcolon, hbehind⟩ := skip_colon layout hbegins after
  rw [fieldText, List.append_assoc, List.append_assoc, encode_text_append, members]
  simp only [string_body_text, bind, Except.bind]
  rw [hcolon]
  simp only [hbehind, h layout fuel after (by omega) hends]
  rfl

theorem members_chars {fields : List (String × Value)}
    (h : ∀ field ∈ first :: fields, Reads t field.2)
    (hbegins : ∀ field ∈ first :: fields, ∀ layout, Begins (field.2.chars layout))
    (layout : Layout)
    (hfuel : 2 * ((fieldText layout.deeper first).length +
      (tailChars layout '}' (fields.map (fieldText layout.deeper))).length) < fuel) :
    members t fuel (fieldText layout.deeper first ++
      (tailChars layout '}' (fields.map (fieldText layout.deeper)) ++ rest)) =
      .ok ((first :: fields).map fieldOfPoints, rest) := by
  obtain ⟨fuel, rfl⟩ : ∃ n, fuel = n + 1 := ⟨fuel - 1, by omega⟩
  have hends : ∀ parts, EndsNumber (tailChars layout '}' parts ++ rest) := fun parts =>
    ends_number_tail layout parts (ends_number_cons (by decide))
  induction fields generalizing first fuel with
  | nil =>
    rw [members_step (h first List.mem_cons_self) layout.deeper
      (hbegins first List.mem_cons_self _) (by omega) (hends _),
      List.map_nil, skip_tail_nil layout (by decide)]
    rfl
  | cons field fields ih =>
    have hshorter := length_tail_cons '}' layout (fieldText layout.deeper field)
      (fields.map (fieldText layout.deeper))
    rw [List.map_cons] at hfuel ⊢
    obtain ⟨fuel, rfl⟩ : ∃ n, fuel = n + 1 := ⟨fuel - 1, by omega⟩
    have hrest := ih (fun f hm => h f (List.mem_cons_of_mem _ hm))
      (fun f hm => hbegins f (List.mem_cons_of_mem _ hm)) fuel (by omega)
    rw [members_step (h first List.mem_cons_self) layout.deeper
      (hbegins first List.mem_cons_self _) (by omega) (hends _), skip_tail_cons]
    simp only [skip_blanks_line_break, (field_begins layout.deeper field).skip_blanks _, hrest]
    rfl

theorem fold_fields [DecidableEq τ] (found fields : List (τ × Value τ))
    (h : ((found ++ fields).map Prod.fst).Nodup) :
    fields.foldl (fun found field => Value.insertField found field.1 field.2) found =
      found ++ fields := by
  induction fields generalizing found with
  | nil => rw [List.append_nil, List.foldl_nil]
  | cons field fields ih =>
    have hnew : found.any (·.1 == field.1) = false := by
      rw [List.any_eq_false]
      intro f hm heq
      rw [List.map_append, List.nodup_append] at h
      exact h.2.2 f.1 (List.mem_map_of_mem hm) field.1 List.mem_cons_self (eq_of_beq heq)
    rw [List.foldl_cons, Value.insertField, if_neg (by rw [hnew]; exact Bool.false_ne_true),
      ih (found ++ [field]) (by rwa [List.append_assoc]), List.append_assoc]
    rfl

theorem value_scalar (h : c ≠ '"' ∧ c ≠ '[' ∧ c ≠ '{') :
    value t (fuel + 1) (c :: rest) = scalar t (c :: rest) := by
  rw [value]
  all_goals simp_all

theorem scalar_int {t : Tolerance} (hn : t.Admits n) (h : EndsNumber rest) :
    scalar t ((toString n).toList ++ rest) = .ok (.int n, rest) := by
  have hwords : words.find? (fun entry => entry.1.toList.isPrefixOf ((toString n).toList ++ rest)) =
      none := by
    obtain ⟨d, ds, hd, h⟩ := int_head n
    have hne : ∀ c : Char, c.isDigit = false → c ≠ d := fun c hc => (digit_ne hd hc).symm
    rcases h with h | h <;> rw [h] <;> simp (disch := decide) [words, hne]
  rw [scalar, hwords]
  exact number_int hn h

theorem Reads.of_succ (hbegins : ∀ layout, Begins (v.chars layout))
    (h : ∀ layout fuel rest, 2 * (v.chars layout).length ≤ fuel + 1 → EndsNumber rest →
      value t (fuel + 1) (v.chars layout ++ rest) = .ok (v.points, rest)) : Reads t v := by
  intro layout fuel rest hfuel hends
  obtain ⟨c, cs, hcs, -⟩ := hbegins layout
  cases fuel with
  | zero => simp [hcs] at hfuel
  | succ fuel => exact h layout fuel rest hfuel hends

theorem reads_null : Reads t .null :=
  .of_succ (fun layout => (Readable.null (t := t)).begins layout) (fun _ _ _ _ _ => rfl)

theorem reads_bool (b : Bool) : Reads t (.bool b) := by
  refine .of_succ (fun layout => (Readable.bool (t := t)).begins layout) (fun _ _ _ _ _ => ?_)
  cases b <;> rfl

theorem reads_int {t : Tolerance} (hn : t.Admits n) : Reads t (.int n) := by
  refine .of_succ (fun _ => int_begins n) (fun layout fuel rest _ hends => ?_)
  have hscalar := scalar_int hn hends
  rw [Value.chars, Value.scalarChars]
  · obtain ⟨d, ds, hd, h | h⟩ := int_head n
    · rw [h, List.cons_append] at hscalar ⊢
      rw [value_scalar ⟨digit_ne hd rfl, digit_ne hd rfl, digit_ne hd rfl⟩]
      exact hscalar
    · rw [h, List.cons_append] at hscalar ⊢
      rw [value_scalar (by decide)]
      exact hscalar
  all_goals simp

theorem reads_text (s : String) : Reads t (.text s) := by
  refine .of_succ (fun layout => (Readable.text (t := t)).begins layout)
    (fun layout fuel rest _ _ => ?_)
  rw [Value.chars, Value.scalarChars, encode_text_append]
  simp only [value, string_body_text, bind, Except.bind]
  rfl
  all_goals simp

theorem reads_list {t : Tolerance} (hdepth : items ≠ [] → t.depth ≠ 0)
    (hbegins : ∀ item ∈ items, ∀ layout, Begins (item.chars layout))
    (h : ∀ item ∈ items, Reads t.inside item) : Reads t (.list items) := by
  refine .of_succ (fun layout => bracket_begins layout _ (.inl rfl))
    (fun layout fuel rest hfuel _ => ?_)
  rw [Value.chars, item_chars_eq_map] at hfuel ⊢
  cases items with
  | nil => rfl
  | cons first items =>
    have hfirst := hbegins first List.mem_cons_self layout.deeper
    rw [List.map_cons, bracket_cons] at hfuel ⊢
    simp only [List.length_append, List.length_cons] at hfuel
    have helements : elements t.inside fuel _ = .ok ((first :: items).map Value.points, rest) :=
      elements_chars h (fun i hm => hbegins i (List.mem_cons_of_mem _ hm)) layout (by omega)
    simp only [List.cons_append, List.append_assoc, value, skip_blanks_line_break,
      hfirst.skip_blanks]
    split
    case h_1 hclose => exact absurd hclose hfirst.ne_close.1
    case h_2 =>
      rw [if_neg (hdepth (List.cons_ne_nil _ _)), helements, Value.points,
        Value.item_points_eq_map]
      rfl

/-- Names that differ do so as texts that could have halves. -/
theorem fields_nodup {fields : List (String × Value)} (h : (fields.map Prod.fst).Nodup) :
    ((fields.map fieldOfPoints).map Prod.fst).Nodup := by
  have hnames : (fields.map fieldOfPoints).map Prod.fst =
      (fields.map Prod.fst).map Text.points := by
    rw [List.map_map, List.map_map]
    rfl
  rw [hnames]
  exact List.Nodup.map points_injective h

theorem reads_object {t : Tolerance} (hdepth : fields ≠ [] → t.depth ≠ 0)
    (hnames : (fields.map Prod.fst).Nodup)
    (hbegins : ∀ field ∈ fields, ∀ layout, Begins (field.2.chars layout))
    (h : ∀ field ∈ fields, Reads t.inside field.2) : Reads t (.object fields) := by
  refine .of_succ (fun layout => bracket_begins layout _ (.inr rfl))
    (fun layout fuel rest hfuel _ => ?_)
  rw [Value.chars, field_chars_eq_map] at hfuel ⊢
  cases fields with
  | nil => rfl
  | cons first fields =>
    have hfirst := field_begins layout.deeper first
    rw [List.map_cons, bracket_cons] at hfuel ⊢
    simp only [List.length_append, List.length_cons] at hfuel
    have hmembers : members t.inside fuel _ = .ok ((first :: fields).map fieldOfPoints, rest) :=
      members_chars h hbegins layout (by omega)
    have hfields : Value.ofFields ((first :: fields).map fieldOfPoints) =
        (Value.object (first :: fields)).points := by
      rw [Value.ofFields, fold_fields [] _ (fields_nodup hnames), List.nil_append, Value.points,
        Value.field_points_eq_map]
    simp only [List.cons_append, List.append_assoc, value, skip_blanks_line_break,
      hfirst.skip_blanks]
    split
    case h_1 hclose => exact absurd hclose hfirst.ne_close.2
    case h_2 =>
      rw [if_neg (hdepth (List.cons_ne_nil _ _)), hmembers]
      exact congrArg (fun v => Except.ok (v, rest)) hfields

theorem value_chars (h : Readable t v) : Reads t v := by
  induction h with
  | null => exact reads_null
  | bool => exact reads_bool _
  | int hn => exact reads_int hn
  | text => exact reads_text _
  | list hdepth h ih => exact reads_list hdepth (fun item hm => (h item hm).begins) ih
  | object hdepth hnames h ih =>
    exact reads_object hdepth hnames (fun field hm => (h field hm).begins) ih

/-- What is written of a value is a document that holds this value. -/
theorem parse_chars (h : Readable t v) (layout : Layout) :
    parse t (String.ofList (v.chars layout)) = .ok v.points := by
  have hbegins := h.begins layout
  have hskip : skipBlanks (v.chars layout) = v.chars layout := by
    simpa using hbegins.skip_blanks []
  have hvalue : value t (2 * (v.chars layout).length + 2) (v.chars layout) =
      .ok (v.points, []) := by
    simpa using value_chars h layout (2 * (v.chars layout).length + 2) [] (by omega)
      (fun c hc => nomatch hc)
  have hmark : (v.chars layout).head? ≠ some '\ufeff' := by
    obtain ⟨c, cs, hcs, -, -, -, hc⟩ := hbegins
    rw [hcs]
    exact fun h => hc (Option.some.inj h)
  have hdocument : document t (v.chars layout) = .ok v.points := by
    rw [document, if_neg hmark]
    simp only [hskip, hvalue, bind, Except.bind]
    rfl
  rw [parse, String.toList_ofList, hdocument]
  rfl

/-- What a text holds is read just if there are no halves in it. -/
theorem read_eq_ok : read t text = .ok v ↔ parse t text = .ok v.points := by
  unfold read
  cases hparse : parse t text with
  | error e => exact iff_of_false nofun nofun
  | ok found =>
    rw [Except.ok.injEq, ← Value.plain_eq_some]
    simp only [bind, Except.bind]
    cases hplain : found.plain? with
    | none => exact iff_of_false nofun nofun
    | some w =>
      change Except.ok w = .ok v ↔ _
      rw [Except.ok.injEq, Option.some.injEq]

theorem read_chars (h : Readable t v) (layout : Layout) :
    read t (String.ofList (v.chars layout)) = .ok v :=
  read_eq_ok.mpr (parse_chars h layout)

end Propositional.Json
