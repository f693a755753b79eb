import HttpExchange.Body.Decoder
import HttpExchange.Proofs.Xml.Exact

/-!
# XML payloads that are written and read again

The value of a document is always written as a document. That document has the
value again when the record of the first one can be written without loss: the
writer knows the qualifiers of names, but not what they stand for, and it escapes
markup, but not the blanks that a reader normalises.

## Main results

* `read?_rewritten` — a document that was read, written and read again.
-/

namespace HttpExchange.Xml

/-- The normalised media types under which values are written as XML. -/
def IsXmlType (contentType : Text) : Prop :=
  contentType = "text/xml" ∨ contentType = "application/xml"

theorem IsXmlType.codec {contentType : Text} (h : IsXmlType contentType) :
    Codec.ofContentType? contentType = some .xml := by
  rcases h with rfl | rfl <;> decide

section Body

variable {hs : Headers} (htype : IsXmlType (Decoder.contentTypeOf hs))

include htype

/-- Under such a type, a payload has the value that it has as a document. -/
theorem decode_eq_structured_iff (d : Decoder) {raw : Text} {v : Json} :
    d.decode raw hs = .structured v ↔ read? raw = some v := by
  have hvalue : d.value? raw hs = read? raw := by
    rw [Decoder.value?, htype.codec]
    rfl
  rw [Decoder.decode, hvalue]
  cases read? raw with
  | none => exact ⟨fun h => (by cases h), fun h => (by cases h)⟩
  | some w =>
      exact ⟨fun h => congrArg some (Body.structured.inj h),
        fun h => congrArg Body.structured (Option.some.inj h)⟩

theorem encode_of_isXmlType (v : Json) :
    (Body.structured v).encode hs.contentType? = (write? v).getD v.write := by
  change Body.encodeValue (Decoder.contentTypeOf hs) v = _
  rw [Body.encodeValue, htype.codec]
  rfl

end Body

/-- **A document that was read, written and read again.** The value of a document is always written
as a document. This one has the value again exactly if the record of the first one is plain, as a
text and as the payload of a message. -/
theorem read?_rewritten {raw : Text} {v : Json} (h : read? raw = some v) :
    ∃ r s, document? raw = some r ∧ r.toJson = v ∧ write? v = some s ∧
      (read? s = some v ↔ r.IsPlain) ∧
      ∀ (d : Decoder) (hs : Headers), IsXmlType (Decoder.contentTypeOf hs) →
        d.decode raw hs = .structured v ∧ (Body.structured v).encode hs.contentType? = s ∧
          (d.decode s hs = .structured v ↔ r.IsPlain) := by
  have hread := h
  rw [read?_eq_document?] at h
  obtain ⟨r, hdocument, rfl⟩ := Option.map_eq_some_iff.mp h
  have hsound := isSound_of_document? hdocument
  have hwritten := Record.write?_toJson hsound
  have hiff := read?_written_iff hsound
  refine ⟨r, r.written, hdocument, rfl, hwritten, hiff, fun d hs htype => ⟨?_, ?_, ?_⟩⟩
  · exact (decode_eq_structured_iff htype d).mpr hread
  · rw [encode_of_isXmlType htype, hwritten]
    rfl
  · exact (decode_eq_structured_iff htype d).trans hiff

/-- Elements from an entity and in a namespace, of which two have one name, and a text without
markup. -/
theorem list_rewritten :
    let hs : Headers := [⟨"Content-Type", ["Application/Atom+XML; charset=utf-8"]⟩]
    let raw : Text := "<!DOCTYPE a [<!ENTITY e '<d>&#65;</d>'>]>\n<a xmlns:x='u' b=' 1'>" ++
      "<x:c>&e;</x:c><x:c><![CDATA[ < ]]></x:c><k/></a>"
    let s : Text := "<a b=\"1\"><c><d>A</d></c><c>&lt;</c><k></k></a>"
    let r : Record := .mk "a" none [("b", "1")] true
      [(none, .mk "c" none [] true [(some "d", .mk "d" (some "A") [] false [])]),
        (none, .mk "c" (some "<") [] false []), (some "k", .mk "k" none [] false [])]
    read? raw = some r.toJson ∧ r.IsPlain ∧ IsXmlType (Decoder.contentTypeOf hs) ∧
      write? r.toJson = some s ∧ read? s = some r.toJson ∧
      Decoder.decode ⟨1000⟩ ((Body.structured r.toJson).encode hs.contentType?) hs =
        .structured r.toJson := by
  intro hs raw s r
  let scope : Scope := [⟨some "x", "u"⟩]
  have htree : Tree.read? (Text.trimStart raw) =
      some (⟨⟨none, "a"⟩, scope, [⟨⟨none, "b"⟩, " 1"⟩]⟩,
        [.element ⟨⟨some "u", "c"⟩, scope, []⟩ [.element ⟨⟨none, "d"⟩, scope, []⟩ [.text "A"]],
          .element ⟨⟨some "u", "c"⟩, scope, []⟩ [.text " < "],
          .element ⟨⟨none, "k"⟩, scope, []⟩ []]) := by decide +kernel
  have hdocument : document? raw = some r := by
    rw [document?, htree]
    simp only [Option.map_some, Record.ofElement, Record.elementsOf]
    rfl
  have hplain : r.IsPlain := by decide +kernel
  have htype : IsXmlType (Decoder.contentTypeOf hs) := .inr (by decide +kernel)
  have hwrite : write? r.toJson = some s := by decide +kernel
  have hread : read? raw = some r.toJson := by rw [read?_eq_document?, hdocument, Option.map_some]
  obtain ⟨r', s', hdocument', -, hwritten, hback, hbody⟩ := read?_rewritten hread
  obtain rfl : r = r' := Option.some.inj (hdocument.symm.trans hdocument')
  obtain rfl : s = s' := Option.some.inj (hwrite.symm.trans hwritten)
  obtain ⟨-, hencode, hdecode⟩ := hbody ⟨1000⟩ hs htype
  exact ⟨hread, hplain, htype, hwrite, hback.mpr hplain, hencode ▸ hdecode.mpr hplain⟩

/-- A line feed that is referred to is written as it is, and read again as a space. -/
theorem lineFeed_lost :
    let raw : Text := "<r a=\"x&#10;y\"/>"
    let s : Text := "<r a=\"x\ny\"></r>"
    let r : Record := .mk "r" none [("a", "x\ny")] false []
    read? raw = some r.toJson ∧ write? r.toJson = some s ∧ read? s ≠ some r.toJson := by
  intro raw s r
  have htree : Tree.read? (Text.trimStart raw) =
      some (⟨⟨none, "r"⟩, [], [⟨⟨none, "a"⟩, "x\ny"⟩]⟩, []) := by decide +kernel
  have hdocument : document? raw = some r := by
    rw [document?, htree]
    simp only [Option.map_some, Record.ofElement, Record.elementsOf]
    rfl
  have hsound : r.IsSound := isSound_of_document? hdocument
  refine ⟨?_, Record.write?_toJson hsound, fun hread => ?_⟩
  · rw [read?_eq_document?, hdocument, Option.map_some]
  · have hplain : r.IsPlain := (read?_written_iff hsound).mp hread
    exact absurd hplain (by decide +kernel)

/-- A qualifier is written without what it stands for. -/
example : ¬ Record.IsPlain (.mk "r" none [("x:a", "1")] false []) := by decide

end HttpExchange.Xml
