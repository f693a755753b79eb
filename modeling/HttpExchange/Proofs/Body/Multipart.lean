import HttpExchange.Proofs.Form.Pairs
import HttpExchange.Proofs.Multipart.Reading
import HttpExchange.Proofs.Request.Wire

/-!
# Multipart bodies are written as forms

The values of a multipart body are read as those of a form are, and they are
written as a form: without a boundary, in a text of a single line. Under headers
that announce multipart form data such a text has no parts. So a body that is
written and read again comes back without its fields, and a request that is
written reads as one whose payload was empty.

## Main definitions

* `IsMultipart` — headers that announce parts and what stands between them.

## Main results

* `IsMultipart.decode_eq` — a payload is read as the form of its parts.
* `IsMultipart.decode_render` — a form has no parts.
* `IsMultipart.fields_lost` — what becomes of a body, and of a request.
-/

namespace HttpExchange

namespace Decoder

/-- A payload of multipart form data is read as such. -/
theorem value?_of_multipart {hs : Headers} (htype : contentTypeOf hs = "multipart/form-data")
    (d : Decoder) (raw : Text) :
    d.value? raw hs = d.readMultipart? ((hs.get? "Content-Type").getD []) raw := by
  have hcodec : Codec.ofContentType? (contentTypeOf hs) = some .multipart := by
    rw [htype]
    rfl
  rw [value?, hcodec, Option.bind_some, readAs?]

/-- Headers that announce multipart form data with a boundary. -/
structure IsMultipart (hs : Headers) (boundary : Text) : Prop where
  type : contentTypeOf hs = "multipart/form-data"
  boundary : Multipart.boundary? ((hs.get? "Content-Type").getD []) = some boundary

/-- The members of a body whose parts have some names and values. -/
def partsJson (d : Decoder) (boundary raw : Text) : Members :=
  Form.parse d.maxInputVars (Form.writePairs (Multipart.fields boundary raw))

namespace IsMultipart

variable {hs : Headers} {boundary : Text} (h : IsMultipart hs boundary)

include h

/-- A payload is read as the form of its parts. -/
theorem decode_eq (d : Decoder) (raw : Text) :
    d.decode raw hs = .structured (.obj (d.partsJson boundary raw)) := by
  rw [decode, value?_of_multipart h.type, readMultipart?, h.boundary]
  rfl

/-- An object is written as a form. -/
theorem encode_eq (fields : Members) :
    (Body.structured (.obj fields)).encode hs.contentType? = Form.render fields := by
  change Body.encodeValue (contentTypeOf hs) (.obj fields) = _
  rw [h.type]
  rfl

/-- A text of a single line is read as a body without fields. -/
theorem decode_of_not_mem {raw : Text} (hraw : '\n' ∉ raw) (d : Decoder) :
    d.decode raw hs = .structured (.obj []) := by
  rw [h.decode_eq, partsJson, Multipart.fields_of_not_mem hraw]
  cases d.maxInputVars <;> rfl

/-- **A form has no parts.** -/
theorem decode_render (fields : Members) (d : Decoder) :
    d.decode (Form.render fields) hs = .structured (.obj []) :=
  h.decode_of_not_mem (fun hmem => nomatch Form.unblank_writePairs _ _ hmem) d

theorem congr {hs' : Headers} (heq : hs'.get? "Content-Type" = hs.get? "Content-Type") :
    IsMultipart hs' boundary where
  type := by
    have htype := h.type
    rw [contentTypeOf, Headers.contentType?, Headers.mediaType?] at htype ⊢
    rwa [heq]
  boundary := by
    rw [heq]
    exact h.boundary

/-- A multipart request has a body with fields: those of its parts, and the parameters of its
query. -/
theorem exists_body_create (headline raw : Text) (config : HttpConfig) :
    ∃ fields, (Request.create headline hs (.raw raw) config).body = .structured (.obj fields) := by
  have hstart := Request.start_body hs raw config
  rw [h.decode_eq] at hstart
  rw [Request.create_eq]
  rcases Request.applyHeadline_body headline config.defaultScheme
    (Request.start hs (.raw raw) config) with hbody | ⟨params, hbody⟩
  · exact ⟨_, hbody.trans hstart⟩
  · rw [hstart, Message.extendWith] at hbody
    split at hbody
    · exact ⟨_, hbody⟩
    · exact ⟨_, hbody⟩

end IsMultipart

/-- A request that was read has the media type that its text announces. -/
theorem IsMultipart.exists_body_read {m : Message} {boundary : Text}
    (h : IsMultipart m.headers boundary) {t : Text} {config : HttpConfig}
    (hread : Request.read t config = .ok m) :
    ∃ fields, m.body = .structured (.obj fields) := by
  obtain ⟨parts, -, hcreate⟩ := bind_eq_ok_iff.mp hread
  obtain rfl := Except.ok.inj hcreate
  have hstart := (Request.starts parts.headers (.raw parts.body) config).headers
  have hsame := Request.applyHeadline_sameButHost parts.headline config.defaultScheme
    (Request.start parts.headers (.raw parts.body) config)
  rw [hstart] at hsame
  have hname : Headers.keyOf "Content-Type" ≠ Headers.keyOf "Host" := by decide
  have hparts : IsMultipart parts.headers boundary := h.congr (hsame.get? hname).symm
  exact hparts.exists_body_create parts.headline parts.body config

/-- A body without fields is equivalent to itself only. -/
theorem equiv_empty_iff (fields : Members) :
    (Body.structured (.obj [])).equiv (.structured (.obj fields)) = true ↔ fields = [] := by
  rw [Body.equiv, Json.equiv, Bool.and_eq_true, beq_iff_eq]
  constructor
  · rintro ⟨hlength, -⟩
    exact List.length_eq_zero_iff.mp hlength.symm
  · rintro rfl
    exact ⟨rfl, rfl⟩

/-- **The fields of a multipart body are lost when it is written and read again.** The body is
written as a form, and a form has no parts. In the same way a multipart request that was read and
written is read as the request with an empty payload. -/
theorem fields_lost {hs : Headers} {boundary : Text} (h : IsMultipart hs boundary) :
    (∀ (d : Decoder) (raw : Text),
      d.decode raw hs = .structured (.obj (d.partsJson boundary raw)) ∧
      (d.decode raw hs).encode hs.contentType? = Form.render (d.partsJson boundary raw) ∧
      d.decode ((d.decode raw hs).encode hs.contentType?) hs = .structured (.obj []) ∧
      ((d.decode ((d.decode raw hs).encode hs.contentType?) hs).equiv (d.decode raw hs) = true ↔
        d.partsJson boundary raw = [])) ∧
    ∀ (t : Text) (config : HttpConfig) (m : Message),
      (∀ c ∈ config.defaultProtocol, Text.isBlank c = false) →
      Request.read t config = .ok m → m.headers = hs →
      Text.utf8Size m.payload ≤ config.maxBodySize →
      ∃ fields, m.body = .structured (.obj fields) ∧ m.payload = Form.render fields ∧
        Request.read (Request.wire m) config =
          .ok { Request.create (Text.trim (Request.headline m)) m.writtenHeaders (.raw [])
            config with rawBody := .raw m.payload } := by
  constructor
  · intro d raw
    rw [h.decode_eq d raw, h.encode_eq, h.decode_render]
    exact ⟨rfl, rfl, rfl, equiv_empty_iff _⟩
  · rintro t config m hprotocol hread rfl hsize
    obtain ⟨fields, hbody⟩ := h.exists_body_read hread
    have hpayload : m.payload = Form.render fields := by
      rw [Message.payload, hbody, h.encode_eq]
    refine ⟨fields, hbody, hpayload, ?_⟩
    have hwritten : IsMultipart m.writtenHeaders boundary :=
      h.congr (m.get?_writtenHeaders (by decide))
    have hdecode : config.decoder.decode m.payload m.writtenHeaders =
        config.decoder.decode [] m.writtenHeaders := by
      rw [hpayload, hwritten.decode_render, hwritten.decode_of_not_mem List.not_mem_nil]
    rw [Request.read, Request.readParts_wire (Request.writable_of_read hprotocol hread) hsize]
    exact congrArg Except.ok (Request.create_of_decode hdecode _)

/-- A note with one field. Its fields are those of the form `a=1`, and when it is written and read
again it has none, whether as a body or in a request. -/
theorem note_fields_lost :
    let hs : Headers := [⟨"Host", ["a"]⟩, ⟨"Content-Type", ["multipart/form-data; boundary=b"]⟩]
    let raw : Text := "--b\r\nContent-Disposition: form-data; name=\"a\"\r\n\r\n1\r\n--b--\r\n"
    let t : Text := "POST /notes HTTP/1.1\r\nHost: a\r\n".toList ++
      "Content-Type: multipart/form-data; boundary=b\r\n\r\n".toList ++ raw
    let v : Body := .structured (.obj [("a".toList, .str ['1'])])
    ({} : Decoder).decode raw hs = v ∧ v.encode hs.contentType? = "a=1".toList ∧
      ({} : Decoder).decode "a=1" hs = .structured (.obj []) ∧
      ∃ m m', Request.read t {} = .ok m ∧ m.body = v ∧
        Request.read (Request.wire m) {} = .ok m' ∧ m'.body = .structured (.obj []) := by
  intro hs raw t v
  have h : IsMultipart hs ['b'] := ⟨by decide +kernel, by decide +kernel⟩
  let m := Request.create "POST /notes HTTP/1.1" hs (.raw raw) {}
  have hprotocol : ∀ c ∈ ({} : HttpConfig).defaultProtocol, Text.isBlank c = false :=
    Text.unblank_iff.mpr (by decide)
  have hread : Request.read t {} = .ok m := by decide +kernel
  have hfields : ({} : Decoder).partsJson ['b'] raw = [("a".toList, .str ['1'])] := by
    decide +kernel
  have hrender : Form.render [("a".toList, .str ['1'])] = "a=1".toList := by decide +kernel
  obtain ⟨hbodies, hrequests⟩ := fields_lost h
  obtain ⟨hdecode, hencode, hlost, -⟩ := hbodies {} raw
  rw [hfields] at hdecode hencode
  rw [hencode, hrender] at hlost
  rw [hdecode, hrender] at hencode
  obtain ⟨fields, hbody, hpayload, hwire⟩ :=
    hrequests t {} m hprotocol hread (by decide +kernel) (by decide +kernel)
  exact ⟨hdecode, hencode, hlost, m, _, hread, by decide +kernel, hwire, by decide +kernel⟩

/-- What is written of the note is not equivalent to the note when it is read again. -/
theorem note_not_equiv :
    let hs : Headers := [⟨"Content-Type", ["multipart/form-data; boundary=b"]⟩]
    let raw : Text := "--b\r\nContent-Disposition: form-data; name=\"a\"\r\n\r\n1\r\n--b--\r\n"
    let v := ({} : Decoder).decode raw hs
    v = .structured (.obj [("a".toList, .str ['1'])]) ∧
      (({} : Decoder).decode (v.encode hs.contentType?) hs).equiv v = false := by
  decide +kernel

end Decoder

end HttpExchange
