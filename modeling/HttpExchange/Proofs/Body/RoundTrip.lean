import HttpExchange.Body.Decoder
import HttpExchange.Proofs.Json.Portable

/-!
# JSON payloads that are written and read again

A payload whose media type says JSON is read as a value, and that value, written
for the same media type, is read as itself. A payload that is no JSON text, or
says null, is kept as it is, and then it is written and kept again.

## Main results

* `readJson?_write` — a value that was read reads back from its text.
* `decode_encode_decode` — a payload that was read, written and read again.
-/

namespace HttpExchange.Decoder

/-- The normalised media types under which values are written as JSON, strings included. -/
def IsJsonType (contentType : Text) : Prop :=
  contentType = "application/json" ∨ contentType = "application/javascript"

theorem IsJsonType.codec {contentType : Text} (h : IsJsonType contentType) :
    Codec.ofContentType? contentType = some .json := by
  rcases h with rfl | rfl <;> decide

/-- Under such a type, a value is written as JSON. -/
theorem IsJsonType.encodeValue {contentType : Text} (h : IsJsonType contentType) (v : Json) :
    Body.encodeValue contentType v = v.write := by
  have htext : Text.startsWith contentType "text/" = false := by
    rcases h with rfl | rfl <;> decide
  rw [Body.encodeValue, h.codec]
  cases v with
  | str t => exact if_neg (by rw [htext]; exact Bool.false_ne_true)
  | _ => rfl

/-- What is read of a payload whose media type says JSON. -/
theorem decode_of_json {hs : Headers} (h : Codec.ofContentType? (contentTypeOf hs) = some .json)
    (d : Decoder) (raw : Text) :
    d.decode raw hs = match readJson? raw with
      | some v => .structured v
      | none => .raw raw := by
  rw [decode, value?, h]
  rfl

section Json

variable {hs : Headers} (htype : IsJsonType (contentTypeOf hs))

include htype

theorem decode_of_isJsonType (d : Decoder) (raw : Text) :
    d.decode raw hs = match readJson? raw with
      | some v => .structured v
      | none => .raw raw :=
  decode_of_json htype.codec d raw

theorem encode_structured (v : Json) : (Body.structured v).encode hs.contentType? = v.write :=
  htype.encodeValue v

end Json

/-- What reading gives, and when it gives nothing. -/
theorem readJson?_cases (raw : Text) :
    (∃ source, Json.read? raw = some source ∧ source ≠ .null ∧
      readJson? raw = some source.portable) ∨
    ((Json.read? raw = none ∨ Json.read? raw = some .null) ∧ readJson? raw = none) := by
  unfold readJson?
  split
  · next hread => exact .inr ⟨.inl hread, rfl⟩
  · next hread => exact .inr ⟨.inr hread, rfl⟩
  · next source hnull hread =>
      exact .inl ⟨source, hread, fun heq => hnull (heq ▸ rfl), rfl⟩

/-- **A value that was read reads back from its text.** -/
theorem readJson?_write {raw : Text} {v : Json} (h : readJson? raw = some v) :
    readJson? v.write = some v := by
  rcases readJson?_cases raw with ⟨source, hread, hnull, hsource⟩ | ⟨-, hnone⟩
  · obtain rfl : source.portable = v := Option.some.inj (hsource.symm.trans h)
    have hreadable := Json.isReadable_of_read? hread
    have hback := Json.read?_write hreadable.portable
    rcases readJson?_cases source.portable.write with ⟨again, hagain, -, heq⟩ | ⟨hnone, -⟩
    · obtain rfl : source.portable = again := Option.some.inj (hback.symm.trans hagain)
      rw [heq, Json.portable_portable hreadable]
    · rw [hback] at hnone
      rcases hnone with hnone | hnone
      · cases hnone
      · exact absurd (Option.some.inj hnone) (Json.portable_ne_null hnull)
  · rw [hnone] at h
    cases h

/-- **JSON payloads that are written and read again.** Under a JSON type, what was read of a payload
is read again from the text that is written for it. A JSON text that does not say null is read as a
value, with those of its numbers that are held and the numerals of the others as strings. Any other
text is kept. -/
theorem decode_encode_decode (d : Decoder) (raw : Text) {hs : Headers}
    (htype : IsJsonType (contentTypeOf hs)) :
    d.decode ((d.decode raw hs).encode hs.contentType?) hs = d.decode raw hs ∧
      (∀ source, Json.read? raw = some source → source ≠ .null →
        ∃ v, d.decode raw hs = .structured v ∧ Json.NumbersHeld source v) ∧
      (Json.read? raw = none ∨ Json.read? raw = some .null → d.decode raw hs = .raw raw) := by
  have hdecode := decode_of_isJsonType htype d
  rcases readJson?_cases raw with ⟨source, hread, hnull, hsource⟩ | ⟨hnothing, hnone⟩
  · have hraw : d.decode raw hs = .structured source.portable := by rw [hdecode, hsource]
    refine ⟨?_, fun source' hread' _ => ?_, fun hnothing => ?_⟩
    · rw [hraw, encode_structured htype, hdecode, readJson?_write hsource]
    · obtain rfl : source = source' := Option.some.inj (hread.symm.trans hread')
      exact ⟨_, hraw, Json.numbersHeld_portable (Json.isReadable_of_read? hread)⟩
    · rw [hread] at hnothing
      rcases hnothing with hnothing | hnothing
      · cases hnothing
      · exact absurd (Option.some.inj hnothing) hnull
  · have hraw : d.decode raw hs = .raw raw := by rw [hdecode, hnone]
    refine ⟨?_, fun source hread hnull => ?_, fun _ => hraw⟩
    · rw [hraw]
      exact hraw
    · rw [hread] at hnothing
      rcases hnothing with hnothing | hnothing
      · cases hnothing
      · exact absurd (Option.some.inj hnothing) hnull

/-- Numbers that stay numbers and numbers that do not, beside a name that is given twice; and a text
that says null. -/
theorem order_decode_encode_decode :
    let hs : Headers := [⟨"Content-Type", ["Application/vnd.order+JSON; charset=utf-8"]⟩]
    let raw : Text := " \x7b\"n\": 0, \"\\u00e9\\n\": [1E5, -0, 12345678901234567890, 1e999], \"n\": 7\x7d"
    let numerals : List Text := ["12345678901234567890", "1e+999"]
    let value (rest : List Json) : Json :=
      .obj [("n", .num "7"), ("é\n", .arr (.num "1e+5" :: .num "-0" :: rest))]
    IsJsonType (contentTypeOf hs) ∧ Json.read? raw = some (value (numerals.map .num)) ∧
      Json.NumbersHeld (value (numerals.map .num)) (value (numerals.map .str)) ∧
      Decoder.decode ⟨1000⟩ (value (numerals.map .str)).write hs =
        .structured (value (numerals.map .str)) ∧
      Decoder.decode ⟨1000⟩ "null" hs = .raw "null" := by
  intro hs raw numerals value
  have htype : IsJsonType (contentTypeOf hs) := .inl (by decide +kernel)
  have hread : Json.read? raw = some (value (numerals.map .num)) := by decide +kernel
  have hdecode : Decoder.decode ⟨1000⟩ raw hs = .structured (value (numerals.map .str)) := by
    decide +kernel
  obtain ⟨hback, hvalue, -⟩ := decode_encode_decode ⟨1000⟩ raw htype
  obtain ⟨v, hv, hnumbers⟩ := hvalue _ hread (by nofun)
  obtain rfl : value (numerals.map .str) = v := Body.structured.inj (hdecode.symm.trans hv)
  rw [hdecode, encode_structured htype] at hback
  obtain ⟨-, -, hkept⟩ := decode_encode_decode ⟨1000⟩ "null" htype
  exact ⟨htype, hread, hnumbers, hback, hkept (.inr (by decide +kernel))⟩

end HttpExchange.Decoder
