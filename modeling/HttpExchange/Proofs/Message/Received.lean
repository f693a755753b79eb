import HttpExchange.Proofs.Body.RoundTrip
import HttpExchange.Proofs.Message.History
import HttpExchange.Proofs.Request.Frame

/-!
# Payloads as they were received

Beside its body, a message keeps the payload that the body was read from. The body
changes with parameters that are added, given values or removed, and with the query
of every URI that is set. The payload changes only when another one is stored. And
a payload that is a text becomes a value only if its media type says how to read it
and the text follows its media type: any other text is the body itself.

## Main definitions

* `Message.SameRecord` — messages with the same protocol, the same status and the same payload.
* `Edit.stored?` — the payload that an edit stores.
* `Decoder.IsKept` — the texts that no value is read from.

## Main results

* `Edit.apply_sameRecord` — which edits leave all three alone.
* `Edit.rawBody_apply` — the payload after an edit, and `Edit.rawBody_applyAll` after some.
* `Decoder.value?_eq_none_iff` — when a text is kept.
* `Message.rawBody_after` — the payload after every history.
-/

namespace HttpExchange

/-! ## What edits leave alone -/

namespace Message

/-- The same message but for its method, where it points to, its header fields and its body. What
is left are the parts that stand as they were given. -/
structure SameRecord (m m' : Message) : Prop where
  protocol : m'.protocol = m.protocol
  status : m'.status = m.status
  rawBody : m'.rawBody = m.rawBody

theorem sameRecord_adoptHost (m : Message) : SameRecord m m.adoptHost := by
  obtain ⟨uri, heq, -⟩ := m.adoptHost_eq
  rw [heq]
  exact ⟨rfl, rfl, rfl⟩

theorem sameRecord_setUri (t : Text) (m : Message) : SameRecord m (m.setUri t) := by
  have hsync : SameRecord m ({ m with uri := Uri.parse t } : Message).syncHost := by
    unfold syncHost
    split
    · exact ⟨rfl, rfl, rfl⟩
    · have hadopt := sameRecord_adoptHost { m with uri := Uri.parse t }
      exact ⟨hadopt.protocol, hadopt.status, hadopt.rawBody⟩
  unfold setUri
  dsimp only
  split
  · exact ⟨hsync.protocol, hsync.status, hsync.rawBody⟩
  · exact hsync

theorem sameRecord_setHeaders (hs : Headers) (m : Message) : SameRecord m (m.setHeaders hs) := by
  have hadopt := sameRecord_adoptHost { m with headers := hs }
  exact ⟨hadopt.protocol, hadopt.status, hadopt.rawBody⟩

theorem sameRecord_setHeader (name value : Text) (m : Message) :
    SameRecord m (m.setHeader name value) := by
  unfold setHeader
  dsimp only
  split <;> exact ⟨rfl, rfl, rfl⟩

end Message

namespace Edit

open Message

/-- Whether an edit gives a message a protocol, a status or a payload, or takes the status away. -/
def records : Edit → Bool
  | .protocol _ | .status _ | .statusCode _ | .clearStatus | .body _ | .bodyRaw _ => true
  | _ => false

/-- Every other edit leaves all three alone. -/
theorem apply_sameRecord {edit : Edit} (h : edit.records = false) (m : Message) :
    SameRecord m (apply m edit) := by
  cases edit with
  | protocol _ | status _ | statusCode _ | clearStatus | body _ | bodyRaw _ => cases h
  | uri t => exact sameRecord_setUri t m
  | headers hs => exact sameRecord_setHeaders hs m
  | header name value => exact sameRecord_setHeader name value m
  | dropParam name =>
      obtain ⟨body, heq⟩ := m.dropParam_eq name
      rw [apply, heq]
      exact ⟨rfl, rfl, rfl⟩
  | dropParams names =>
      obtain ⟨body, heq⟩ := m.dropParams_eq names
      rw [apply, heq]
      exact ⟨rfl, rfl, rfl⟩
  | method _ | cookie _ _ _ | charset _ | contentType _ | extendBody _ | param _ _ | params _ =>
      exact ⟨rfl, rfl, rfl⟩

/-! ## The payload that was stored last -/

/-- The payload that an edit stores. -/
def stored? : Edit → Option Body
  | .body b | .bodyRaw b => some b
  | _ => none

/-- **The payload after an edit** is the one that the edit stores, or the one before. -/
theorem rawBody_apply (m : Message) (edit : Edit) :
    (apply m edit).rawBody = edit.stored?.getD m.rawBody := by
  cases hrecords : edit.records with
  | false =>
      have hstored : edit.stored? = none := by
        cases edit with
        | body _ | bodyRaw _ => cases hrecords
        | _ => rfl
      rw [hstored]
      exact (apply_sameRecord hrecords m).rawBody
  | true =>
      cases edit with
      | status t =>
          change (m.setStatus t).rawBody = m.rawBody
          unfold setStatus
          dsimp only
          split <;> rfl
      | protocol _ | statusCode _ | clearStatus | body _ | bodyRaw _ => rfl
      | _ => cases hrecords

/-- After some edits it is the one that was stored last. -/
theorem rawBody_applyAll (m : Message) (edits : List Edit) :
    (applyAll m edits).rawBody = (edits.filterMap stored?).getLastD m.rawBody := by
  induction edits generalizing m with
  | nil => rfl
  | cons edit edits ih =>
      have hstep : (applyAll m (edit :: edits)).rawBody =
          (edits.filterMap stored?).getLastD (edit.stored?.getD m.rawBody) := by
        rw [← rawBody_apply]
        exact ih (apply m edit)
      rw [hstep]
      cases hstored : edit.stored? with
      | none => rw [List.filterMap_cons_none hstored]; rfl
      | some b => rw [List.filterMap_cons_some hstored, List.getLastD_cons]; rfl

end Edit

/-- The payload that a message begins with. -/
def Origin.payload : Origin → Body
  | .plain _ b _ | .request _ _ b _ | .response _ _ b _ => b

/-- A first line stores no payload. -/
theorem Origin.rawBody_message (origin : Origin) : origin.message.rawBody = origin.payload := by
  refine message_of_bare (P := fun m => m.rawBody = origin.payload) (fun m edit hline h => ?_) ?_
  · have hstored : edit.stored? = none := by
      cases edit with
      | body _ | bodyRaw _ => cases hline
      | _ => rfl
    rw [Edit.rawBody_apply, hstored]
    exact h
  · cases origin <;> exact (Message.create_frame _ _ _).2.2.1

/-! ## Texts that are kept -/

namespace Decoder

/-- A text that no value is read from under some headers. -/
inductive IsKept (hs : Headers) (raw : Text) : Prop where
  /-- The media type does not say how a payload is read. -/
  | untyped (htype : Codec.ofContentType? (contentTypeOf hs) = none)
  /-- The text is no JSON, or it says null. -/
  | json (htype : Codec.ofContentType? (contentTypeOf hs) = some .json)
      (hread : Json.read? raw = none ∨ Json.read? raw = some .null)
  /-- The text is no XML document. -/
  | xml (htype : Codec.ofContentType? (contentTypeOf hs) = some .xml) (hread : Xml.read? raw = none)
  /-- Nothing says what stands between the parts. -/
  | multipart (htype : Codec.ofContentType? (contentTypeOf hs) = some .multipart)
      (hboundary : Multipart.boundary? ((hs.get? "Content-Type").getD []) = none)

/-- **When a text is kept**, whatever the limit of the reader is. A form is always read. -/
theorem value?_eq_none_iff {d : Decoder} {raw : Text} {hs : Headers} :
    d.value? raw hs = none ↔ IsKept hs raw := by
  unfold value?
  constructor
  · intro hnone
    cases htype : Codec.ofContentType? (contentTypeOf hs) with
    | none => exact .untyped htype
    | some codec =>
        rw [htype, Option.bind_some] at hnone
        cases codec with
        | multipart => exact .multipart htype (Option.map_eq_none_iff.mp hnone)
        | form => cases hnone
        | json =>
            rcases readJson?_cases raw with ⟨source, -, -, hvalue⟩ | ⟨hread, -⟩
            · cases hvalue.symm.trans hnone
            · exact .json htype hread
        | xml => exact .xml htype hnone
  · intro hkept
    cases hkept with
    | untyped htype => rw [htype, Option.bind_none]
    | json htype hread =>
        rw [htype, Option.bind_some]
        rcases readJson?_cases raw with ⟨source, hsource, hnull, -⟩ | ⟨-, hnone⟩
        · rw [hsource] at hread
          rcases hread with hread | hread
          · cases hread
          · exact absurd (Option.some.inj hread) hnull
        · exact hnone
    | xml htype hread =>
        rw [htype, Option.bind_some]
        exact hread
    | multipart htype hboundary =>
        rw [htype, Option.bind_some]
        exact Option.map_eq_none_iff.mpr hboundary

end Decoder

/-! ## Payloads that are given to be read -/

namespace Message

/-- What becomes of a text that is given to a message. -/
theorem body_setBody_raw (t : Text) (m : Message) :
    (m.setBody (.raw t)).body = match m.decoder.value? t m.headers with
      | some v => .structured v
      | none => .raw t := rfl

/-- A payload that is given to a message is its body, unless it is a text that is read. -/
theorem body_setBody_eq_iff (b : Body) (m : Message) :
    (m.setBody b).body = b ↔ ∀ t, b = .raw t → Decoder.IsKept m.headers t := by
  cases b with
  | structured v => exact iff_of_true rfl nofun
  | raw t =>
      have hkept : m.decoder.value? t m.headers = none ↔ Decoder.IsKept m.headers t :=
        Decoder.value?_eq_none_iff
      rw [body_setBody_raw]
      cases hvalue : m.decoder.value? t m.headers with
      | none =>
          refine iff_of_true rfl fun t' heq => ?_
          obtain rfl := Body.raw.inj heq
          exact hkept.mp hvalue
      | some v =>
          refine iff_of_false nofun fun h => ?_
          cases hvalue.symm.trans (hkept.mpr (h t rfl))

/-- Otherwise its body is what was read. -/
theorem exists_body_setBody {t : Text} {m : Message} (h : ¬ Decoder.IsKept m.headers t) :
    ∃ v, m.decoder.value? t m.headers = some v ∧ (m.setBody (.raw t)).body = .structured v := by
  have hsome : m.decoder.value? t m.headers ≠ none := mt Decoder.value?_eq_none_iff.mp h
  obtain ⟨v, hvalue⟩ := Option.ne_none_iff_exists'.mp hsome
  refine ⟨v, hvalue, ?_⟩
  rw [body_setBody_raw, hvalue]

/-! ## Histories -/

/-- **A message keeps its payload as it was received.** After every history it is the payload that
was stored last, or the one that the message began with. Just after a payload was given to be read,
it is also the body, unless it is a text that the media type at that time says how to read and that
follows the media type: then the body is the value that was read. -/
theorem rawBody_after (origin : Origin) (edits : List Edit) :
    let m := after origin edits
    m.rawBody = (edits.filterMap Edit.stored?).getLastD origin.payload ∧
    ∀ b, let m' := Edit.apply m (.body b)
      m'.rawBody = b ∧
      (m'.body = m'.rawBody ↔ ∀ t, b = .raw t → Decoder.IsKept m.headers t) ∧
      ∀ t, b = .raw t → ¬ Decoder.IsKept m.headers t →
        ∃ v, m.decoder.value? t m.headers = some v ∧ m'.body = .structured v := by
  intro m
  have hraw : m.rawBody = (edits.filterMap Edit.stored?).getLastD origin.payload := by
    rw [← origin.rawBody_message]
    exact Edit.rawBody_applyAll origin.message edits
  refine ⟨hraw, fun b => ⟨rfl, body_setBody_eq_iff b m, ?_⟩⟩
  rintro t rfl hread
  exact exists_body_setBody hread

/-- A request whose payload is no JSON. Its URI is set, parameters are added and the media type
changes, and the payload is still what it was. A document that does not end is kept, and one that
ends is read. -/
theorem unfinished_rawBody_after :
    let origin : Origin := .request "PUT /a?x=1 HTTP/1.1"
      [⟨"Host", ["example.test"]⟩, ⟨"Content-Type", ["application/json"]⟩] (.raw "\x7b\"a\": 1") {}
    let edits : List Edit := [.uri "/b?y=2", .param "z" (.bool true), .extendBody (.raw "tail"),
      .contentType "text/xml"]
    let m := after origin edits
    m.body ≠ m.rawBody ∧ m.rawBody = .raw "\x7b\"a\": 1" ∧
      (Edit.apply m (.body (.raw "<a>"))).body = .raw "<a>" ∧
      ∃ v, (Edit.apply m (.body (.raw "<a/>"))).body = .structured v := by
  intro origin edits m
  obtain ⟨hraw, hbody⟩ := rawBody_after origin edits
  have htype : Codec.ofContentType? (Decoder.contentTypeOf m.headers) = some .xml := by
    decide +kernel
  have hbroken : Xml.read? "<a>" = none := by decide +kernel
  obtain ⟨-, hkept, -⟩ := hbody (.raw "<a>")
  obtain ⟨-, -, hread⟩ := hbody (.raw "<a/>")
  refine ⟨by decide +kernel, hraw, hkept.mpr fun t heq => ?_, ?_⟩
  · obtain rfl := Body.raw.inj heq
    exact .xml htype hbroken
  · have hnot : ¬ Decoder.IsKept m.headers "<a/>" := by
      rw [← Decoder.value?_eq_none_iff (d := m.decoder)]
      decide +kernel
    obtain ⟨v, -, hv⟩ := hread "<a/>" rfl hnot
    exact ⟨v, hv⟩

end Message

end HttpExchange
