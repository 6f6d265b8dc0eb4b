import Propositional.Json.Value

namespace Propositional

namespace Text

theorem text_points (text : String) : (points text).text? = some text := by
  have hchars : (text.toList.map CodePoint.char).mapM CodePoint.char? = some text.toList := by
    induction text.toList with
    | nil => rfl
    | cons c cs ih => simp [CodePoint.char?, ih]
  rw [points, Points.text?, hchars, Option.map_some, String.ofList_toList]

theorem map_char_of_chars {ps : Points} (h : ps.mapM CodePoint.char? = some cs) :
    ps = cs.map .char := by
  induction ps generalizing cs with
  | nil =>
    cases h
    rfl
  | cons p ps ih =>
    simp only [List.mapM_cons, Option.bind_eq_bind, Option.bind_eq_some_iff] at h
    obtain ⟨c, hc, rest, hrest, heq⟩ := h
    cases heq
    cases p with
    | half unit => cases hc
    | char d =>
      cases hc
      rw [ih hrest, List.map_cons]

/-- A text without halves is a text as any other. -/
theorem text_eq_some {ps : Points} : ps.text? = some text ↔ ps = points text := by
  constructor
  · intro h
    obtain ⟨cs, hcs, rfl⟩ := Option.map_eq_some_iff.mp h
    rw [points, String.toList_ofList, map_char_of_chars hcs]
  · rintro rfl
    exact text_points text

theorem points_injective : Function.Injective points := by
  intro a b h
  have ha := text_points a
  rw [h, text_points] at ha
  exact (Option.some.inj ha).symm

theorem half_points (text : String) : (points text).half? = none := by
  rw [Points.half?, List.findSome?_eq_none_iff]
  intro p hp
  obtain ⟨c, -, rfl⟩ := List.mem_map.mp hp
  rfl

theorem stand_in_points (text : String) : (points text).standIn = text := by
  rw [Points.standIn, points, List.map_map]
  exact (congrArg String.ofList (List.map_id' _)).trans String.ofList_toList

theorem quote_points (text : String) : (points text).quote = quote text := by
  have hchars : (points text).filterMap CodePoint.char? = text.toList := by
    rw [points, List.filterMap_map]
    exact List.filterMap_some
  have hquote : ∀ mark, (points text).flatMap (CodePoint.quote mark) =
      text.toList.flatMap (quoteChar mark) := fun mark => by
    rw [points, List.flatMap_map]
    rfl
  rw [Points.quote, hchars, hquote, quote]

end Text

namespace Json.Value
open Text (Points quote_points text_eq_some text_points)

theorem item_points_eq_map (items : List Value) : itemPoints items = items.map points := by
  induction items with
  | nil => rfl
  | cons v rest ih => rw [itemPoints, ih, List.map_cons]

/-- The same field as one of an object whose texts could have halves. -/
def fieldOfPoints (field : String × Value) : Points × Value Points :=
  (Text.points field.1, field.2.points)

theorem field_points_eq_map (fields : List (String × Value)) :
    fieldPoints fields = fields.map fieldOfPoints := by
  induction fields with
  | nil => rfl
  | cons field rest ih => rw [fieldPoints, ih, List.map_cons, fieldOfPoints]

mutual

/-- No value loses its texts on the way to such with halves. -/
theorem plain_points : ∀ v : Value, v.points.plain? = some v
  | .null => rfl
  | .bool _ => rfl
  | .int _ => rfl
  | .float _ => rfl
  | .text s => by rw [points, plain?, text_points, Option.map_some]
  | .list items => by rw [points, plain?, plain_items, Option.map_some]
  | .object fields => by rw [points, plain?, plain_fields, Option.map_some]

theorem plain_items : ∀ items : List Value, plainItems? (itemPoints items) = some items
  | [] => rfl
  | v :: rest => by rw [itemPoints, plainItems?, plain_points v, plain_items rest]; rfl

theorem plain_fields : ∀ fields : List (String × Value),
    plainFields? (fieldPoints fields) = some fields
  | [] => rfl
  | (name, v) :: rest => by
    rw [fieldPoints, plainFields?, text_points, plain_points v, plain_fields rest]; rfl

end

mutual

theorem eq_points_of_plain : ∀ {v : Value Points} {w : Value}, v.plain? = some w → v = w.points
  | .null, _, h => by cases h; rfl
  | .bool _, _, h => by cases h; rfl
  | .int _, _, h => by cases h; rfl
  | .float _, _, h => by cases h; rfl
  | .text s, _, h => by
    obtain ⟨text, htext, rfl⟩ := Option.map_eq_some_iff.mp h
    rw [points, text_eq_some.mp htext]
  | .list items, _, h => by
    obtain ⟨plain, hplain, rfl⟩ := Option.map_eq_some_iff.mp h
    rw [points, eq_items_of_plain hplain]
  | .object fields, _, h => by
    obtain ⟨plain, hplain, rfl⟩ := Option.map_eq_some_iff.mp h
    rw [points, eq_fields_of_plain hplain]

theorem eq_items_of_plain : ∀ {items : List (Value Points)} {plain : List Value},
    plainItems? items = some plain → items = itemPoints plain
  | [], _, h => by cases h; rfl
  | v :: rest, _, h => by
    simp only [plainItems?, Option.bind_eq_bind, Option.bind_eq_some_iff] at h
    obtain ⟨first, hfirst, others, hothers, heq⟩ := h
    cases heq
    rw [itemPoints, eq_points_of_plain hfirst, eq_items_of_plain hothers]

theorem eq_fields_of_plain : ∀ {fields : List (Points × Value Points)}
    {plain : List (String × Value)}, plainFields? fields = some plain → fields = fieldPoints plain
  | [], _, h => by cases h; rfl
  | (name, v) :: rest, _, h => by
    simp only [plainFields?, Option.bind_eq_bind, Option.bind_eq_some_iff] at h
    obtain ⟨text, htext, first, hfirst, others, hothers, heq⟩ := h
    cases heq
    rw [fieldPoints, text_eq_some.mp htext, eq_points_of_plain hfirst, eq_fields_of_plain hothers]

end

mutual

/-- A value is shown in the same way if its texts could have halves. -/
theorem shown_points : ∀ v : Value, v.points.shownBy Points.quote = v.shown
  | .null => rfl
  | .bool _ => rfl
  | .int _ => rfl
  | .float _ => rfl
  | .text s => quote_points s
  | .list items => by rw [points, shownBy, shown_items items]; rfl
  | .object fields => by rw [points, shownBy, shown_fields fields]; rfl

theorem shown_items : ∀ items : List Value,
    shownItems Points.quote (itemPoints items) = shownItems Text.quote items
  | [] => rfl
  | v :: rest => by rw [itemPoints, shownItems, shown_points v, shown_items rest]; rfl

theorem shown_fields : ∀ fields : List (String × Value),
    shownFields Points.quote (fieldPoints fields) = shownFields Text.quote fields
  | [] => rfl
  | (name, v) :: rest => by
    rw [fieldPoints, shownFields, quote_points, shown_points v, shown_fields rest]; rfl

end

theorem plain_eq_some {v : Value Points} {w : Value} : v.plain? = some w ↔ v = w.points :=
  ⟨eq_points_of_plain, fun h => h ▸ plain_points w⟩

end Json.Value

end Propositional
