import Mathlib.Data.Nat.Digits.Defs
import Propositional.Proofs.Decimals
import Propositional.Proofs.DrawnTable
import Propositional.Proofs.PlainTexts
import Propositional.Settings.Environment

namespace Propositional
namespace Text

/-- A text that can be laid out at any width and stand before a closing tag: it has no joiners, and
does not end with a backslash. -/
structure Tame (text : String) : Prop where
  joiner : Text.joiner ∉ text.toList
  last : text.toList.getLast? ≠ some '\\'

instance (text : String) : Decidable (Tame text) :=
  decidable_of_iff (joiner ∉ text.toList ∧ text.toList.getLast? ≠ some '\\')
    ⟨fun h => ⟨h.1, h.2⟩, fun h => ⟨h.joiner, h.last⟩⟩

theorem Tame.append (ha : Tame a) (hb : Tame b) : Tame (a ++ b) := by
  refine ⟨?_, ?_⟩
  · rw [String.toList_append, List.mem_append, not_or]
    exact ⟨ha.joiner, hb.joiner⟩
  · rw [String.toList_append, List.getLast?_append]
    cases hlast : b.toList.getLast? with
    | none => exact ha.last
    | some c => exact fun h => hb.last (hlast.trans h)

theorem tame_of_chars (h : ∀ c ∈ text.toList, c ≠ joiner ∧ c ≠ '\\') : Tame text :=
  ⟨fun hm => (h _ hm).1 rfl, fun hlast => (h _ (List.mem_of_getLast? hlast)).2 rfl⟩

theorem tame_empty : Tame "" := by decide

theorem ne_of_digit (h : c.isDigit = true) : c ≠ joiner ∧ c ≠ '\\' := by
  refine ⟨?_, ?_⟩ <;> rintro rfl <;> cases h

theorem tame_int (n : Int) : Tame (toString n) := by
  refine tame_of_chars (fun c hc => ?_)
  rcases mem_int_chars hc with rfl | hdigit
  · decide
  · exact ne_of_digit hdigit

theorem tame_nat (n : Nat) : Tame (toString n) := tame_int n

theorem digit_char_ne : ∀ n < 16, Nat.digitChar n ≠ joiner ∧ Nat.digitChar n ≠ '\\' := by
  decide

theorem hex_digit_ne (n : Nat) : ∀ c ∈ Nat.toDigits 16 n, c ≠ joiner ∧ c ≠ '\\' := by
  induction n using Nat.base_induction 16 (by decide) with
  | single m hm =>
    rw [Nat.toDigits_of_lt_base hm, List.forall_mem_singleton]
    exact digit_char_ne m hm
  | digit m k hk hm ih =>
    rw [← Nat.toDigits_append_toDigits (by decide) hm hk, Nat.toDigits_of_lt_base hk,
      List.forall_mem_append, List.forall_mem_singleton]
    exact ⟨ih, digit_char_ne k hk⟩

theorem hex_ne (digits n : Nat) : ∀ c ∈ hex digits n, c ≠ joiner ∧ c ≠ '\\' := by
  intro c hc
  rcases List.mem_append.mp hc with hc | hc
  · rw [List.eq_of_mem_replicate hc]
    decide
  · exact hex_digit_ne n c hc

theorem quote_mark_ne (cs : List Char) : quoteMark cs ≠ joiner ∧ quoteMark cs ≠ '\\' := by
  unfold quoteMark
  split <;> decide

theorem joiner_not_printable : isPrintable joiner = false := by decide +kernel

theorem joiner_not_mem_quote_char (hmark : mark ≠ joiner) (c : Char) :
    joiner ∉ quoteChar mark c := by
  have hslash : joiner ≠ '\\' := by decide
  have hhex : ∀ digits, joiner ∉ hex digits c.toNat := fun digits hm => (hex_ne _ _ _ hm).1 rfl
  unfold quoteChar
  split_ifs with hescape hline hreturn htab hprint
  · rw [Bool.or_eq_true, beq_iff_eq, beq_iff_eq] at hescape
    rcases hescape with rfl | rfl
    · simp [hslash, Ne.symm hmark]
    · simp [hslash]
  · decide
  · decide
  · decide
  · rw [List.mem_singleton]
    rintro rfl
    cases joiner_not_printable.symm.trans hprint
  all_goals
    simp only [List.mem_cons, hslash, hhex, false_or, or_false]
    decide

theorem joiner_not_mem_quote_point (hmark : mark ≠ joiner) (p : CodePoint) :
    joiner ∉ p.quote mark := by
  cases p with
  | char c => exact joiner_not_mem_quote_char hmark c
  | half unit =>
    have hhex : joiner ∉ hex 4 unit := fun hm => (hex_ne _ _ _ hm).1 rfl
    simp only [CodePoint.quote, List.mem_cons, hhex, or_false]
    decide

/-- A quoted text shows no joiners, which cannot be seen, and ends with its mark. -/
theorem tame_quote_points (ps : Points) : Tame ps.quote := by
  have hmark := quote_mark_ne (ps.filterMap CodePoint.char?)
  refine ⟨?_, ?_⟩
  · simp only [Points.quote, String.toList_ofList, List.cons_append, List.mem_cons,
      List.mem_append, List.not_mem_nil, or_false, not_or, List.mem_flatMap, not_exists, not_and]
    exact ⟨hmark.1.symm, fun p _ => joiner_not_mem_quote_point hmark.1 p, hmark.1.symm⟩
  · rw [Points.quote, String.toList_ofList, List.getLast?_concat]
    exact fun hlast => hmark.2 (Option.some.inj hlast)

theorem tame_quote (text : String) : Tame (quote text) :=
  quote_points text ▸ tame_quote_points (points text)

end Text

namespace Binary64

/-- The characters of numbers. -/
def isNumeric (c : Char) : Bool := c.isDigit || c ∈ ".e+-infa".toList

def Numeric (cs : List Char) : Prop := ∀ c ∈ cs, isNumeric c = true

theorem numeric_nil : Numeric [] := fun _ hc => nomatch hc

theorem numeric_cons : Numeric (c :: cs) ↔ isNumeric c = true ∧ Numeric cs := List.forall_mem_cons

theorem numeric_append : Numeric (a ++ b) ↔ Numeric a ∧ Numeric b := List.forall_mem_append

theorem numeric_zeros (n : Nat) : Numeric (List.replicate n '0') := fun c hc => by
  rw [List.eq_of_mem_replicate hc]
  decide

theorem numeric_decimal (n : Nat) : Numeric (Nat.toDigits 10 n) := fun c hc => by
  simp [isNumeric, Text.digit_of_decimal hc]

theorem Numeric.sublist (h : Numeric b) (hsub : a.Sublist b) : Numeric a := fun c hc =>
  h c (hsub.subset hc)

theorem Decimal.text_numeric (d : Decimal) : Numeric d.text.toList := by
  have hdigits : Numeric ((Nat.toDigits 10 d.coefficient).reverse.dropWhile (· == '0')).reverse :=
    (numeric_decimal d.coefficient).sublist
      (List.reverse_sublist.mp (by simpa using List.dropWhile_sublist _))
  unfold text
  dsimp only
  generalize ((Nat.toDigits 10 d.coefficient).reverse.dropWhile (· == '0')).reverse = digits
    at hdigits
  have htake : ∀ n, Numeric (digits.take n) := fun n => hdigits.sublist (List.take_sublist n digits)
  have hdrop : ∀ n, Numeric (digits.drop n) := fun n => hdigits.sublist (List.drop_sublist n digits)
  have hmarks : isNumeric '.' = true ∧ isNumeric '0' = true ∧ isNumeric 'e' = true ∧
      isNumeric '-' = true ∧ isNumeric '+' = true := by decide
  split_ifs <;>
    simp only [String.toList_ofList, numeric_append, numeric_cons, numeric_nil, numeric_zeros,
      numeric_decimal, htake, hdrop, hdigits, hmarks, and_self]

/-- A number is written with few characters. -/
theorem text_numeric (x : Binary64) : Numeric x.text.toList := by
  cases x with
  | finite negative significand exponent =>
    have hsign : Numeric (if negative then "-" else "").toList := by
      cases negative <;> exact List.all_eq_true.mp (by decide)
    have hzero : Numeric "0.0".toList := List.all_eq_true.mp (by decide)
    rw [text, String.toList_append, numeric_append]
    refine ⟨hsign, ?_⟩
    split
    · exact hzero
    · exact Decimal.text_numeric _
  | infinite negative => cases negative <;> exact List.all_eq_true.mp (by decide)
  | nan => exact List.all_eq_true.mp (by decide)

theorem tame_text (x : Binary64) : Text.Tame x.text :=
  Text.tame_of_chars (fun c hc => by
    have hnumeric := text_numeric x c hc
    refine ⟨?_, ?_⟩ <;> rintro rfl <;> revert hnumeric <;> decide)

end Binary64

namespace Json.Value
open Text (Tame joiner tame_quote)

theorem tame_kind (v : Value τ) : Tame v.kind := by
  cases v <;> simp only [kind] <;> decide

theorem joiner_not_mem_join {parts : List String} (h : ∀ part ∈ parts, joiner ∉ part.toList) :
    joiner ∉ (", ".intercalate parts).toList := by
  rw [String.toList_intercalate]
  refine Console.joiner_not_mem_intercalate (by decide) (fun cs hcs => ?_)
  obtain ⟨part, hpart, rfl⟩ := List.mem_map.mp hcs
  exact h part hpart

theorem tame_between {first last : String} (hfirst : Tame first) (hlast : Tame last)
    (hne : last ≠ "") (h : joiner ∉ between.toList) : Tame (first ++ between ++ last) := by
  refine ⟨?_, ?_⟩
  · simp only [String.toList_append, List.mem_append, not_or]
    exact ⟨⟨hfirst.joiner, h⟩, hlast.joiner⟩
  · rw [String.toList_append, List.getLast?_append_of_ne_nil]
    · exact hlast.last
    · exact fun hnil => hne (String.toList_eq_nil_iff.mp hnil)

mutual

/-- Every value is shown without joiners, and not with a backslash at its end, if its texts are. -/
theorem tame_shown_by {quote : τ → String} (hquote : ∀ s, Tame (quote s)) :
    ∀ v : Value τ, Tame (v.shownBy quote)
  | .null => (by decide : Tame "None")
  | .bool true => (by decide : Tame "True")
  | .bool false => (by decide : Tame "False")
  | .int n => Text.tame_int n
  | .float x => x.tame_text
  | .text s => hquote s
  | .list items => tame_between (by decide) (by decide) (by decide)
      (joiner_not_mem_join (tame_items hquote items))
  | .object fields => tame_between (by decide) (by decide) (by decide)
      (joiner_not_mem_join (tame_fields hquote fields))

theorem tame_items {quote : τ → String} (hquote : ∀ s, Tame (quote s)) :
    ∀ items : List (Value τ), ∀ part ∈ shownItems quote items, joiner ∉ part.toList
  | [] => nofun
  | v :: rest => List.forall_mem_cons.mpr
      ⟨(tame_shown_by hquote v).joiner, tame_items hquote rest⟩

theorem tame_fields {quote : τ → String} (hquote : ∀ s, Tame (quote s)) :
    ∀ fields : List (τ × Value τ), ∀ part ∈ shownFields quote fields, joiner ∉ part.toList
  | [] => nofun
  | (name, v) :: rest => List.forall_mem_cons.mpr
      ⟨(((hquote name).append (by decide)).append (tame_shown_by hquote v)).joiner,
        tame_fields hquote rest⟩

end

theorem tame_shown (v : Value Text.Points) : Tame (v.shownBy Text.Points.quote) :=
  tame_shown_by Text.tame_quote_points v

end Json.Value

open Text (Points Tame joiner tame_nat tame_quote)

theorem Interpreter.tame_long_integer_message (limit : Nat) : Tame (longIntegerMessage limit) := by
  repeat' apply Tame.append
  all_goals first | exact tame_nat _ | decide

theorem FileError.tame_message (e : FileError) : Tame e.message := by
  cases e with
  | failed fault path =>
    have hfault : Tame fault.text := by cases fault <;> decide
    exact (hfault.append (by decide)).append (tame_quote path)
  | nullInPath => decide
  | callsExhausted => decide

theorem Text.Utf8Error.tame_message (e : Utf8Error) : Tame e.message := by
  have hfault : Tame e.fault.text := by cases e.fault <;> decide
  have hbyte : Tame (String.ofList (hex 2 e.byte.toNat)) :=
    tame_of_chars (by rw [String.toList_ofList]; exact hex_ne _ _)
  unfold message
  split
  · exact Tame.append (Tame.append (Tame.append (by decide) hbyte) (by decide))
      (Tame.append (Tame.append (tame_nat _) (by decide)) hfault)
  · exact Tame.append (Tame.append (Tame.append (Tame.append (Tame.append (by decide) (tame_nat _))
      (by decide)) (tame_nat _)) (by decide)) hfault

theorem ReadFault.tame_message (e : ReadFault) : Tame e.message := by
  cases e with
  | file e => exact e.tame_message
  | encoding e => exact e.tame_message

theorem Json.Fault.tame_message (fault : Fault) : Tame fault.message := by
  cases fault with
  | longInteger excess =>
    repeat' apply Tame.append
    all_goals first | exact tame_nat _ | decide
  | _ => decide

theorem Json.ReadError.tame_message (e : ReadError) : Tame e.message := by
  unfold message
  split
  · exact e.fault.tame_message
  · exact e.fault.tame_message
  · repeat' apply Tame.append
    all_goals first | exact e.fault.tame_message | exact tame_nat _ | decide

namespace SettingsError

/-- What a message holds as it was given, without quotes that hide anything. -/
def spliced : SettingsError → String
  | .unknownKeyword name => name.standIn
  | .repeatedKeyword name => name
  | .notMapping kind => kind
  | _ => ""

/-- A message is as tame as what is spliced into it. -/
theorem tame_message {e : SettingsError} (h : Tame e.spliced) : Tame e.message := by
  cases e with
  | badLimit v =>
    exact Tame.append (Tame.append (Tame.append (by decide +kernel) (tame_nat _))
      (by decide +kernel)) v.tame_shown
  | badLevel v => exact Tame.append (by decide) v.tame_shown
  | badFormat v =>
    exact Tame.append (Tame.append (Tame.append (by decide)
      (Json.Value.tame_shown_by tame_quote _)) (by decide +kernel)) v.tame_shown
  | longInteger limit => exact Interpreter.tame_long_integer_message limit
  | badInteger text => exact Tame.append (by decide +kernel) (tame_quote text)
  | unknownKeyword name => exact Tame.append (Tame.append (by decide) h) (by decide)
  | repeatedKeyword name => exact Tame.append (Tame.append (by decide) h) (by decide)
  | notMapping kind => exact Tame.append (by decide) h
  | unreadable e => exact e.tame_message
  | malformed e => exact e.tame_message
  | unsettable e => cases e <;> decide

theorem unknown_keyword_message (name : Points) : (unknownKeyword name).message =
    "Settings.__init__() got an unexpected keyword argument '" ++ name.standIn ++ "'" := rfl

/-- The message about a keyword ends with a quote, whatever the keyword is. -/
theorem unknown_keyword_last (name : Points) :
    (unknownKeyword name).message.toList.getLast? = some '\'' := by
  rw [unknown_keyword_message, String.toList_append]
  exact List.getLast?_concat

theorem joiner_mem_unknown_keyword (h : joiner ∈ (unknownKeyword name).message.toList) :
    joiner ∈ name.standIn.toList := by
  have hopening : Tame "Settings.__init__() got an unexpected keyword argument '" := by decide
  have hclosing : Tame "'" := by decide
  rw [unknown_keyword_message, String.toList_append, String.toList_append, List.mem_append,
    List.mem_append] at h
  exact (h.resolve_right hclosing.joiner).resolve_left hopening.joiner

end SettingsError

end Propositional
