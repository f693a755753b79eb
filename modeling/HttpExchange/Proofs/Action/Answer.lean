import HttpExchange.Proofs.Action.Plan
import HttpExchange.Proofs.Body.JsonType
import HttpExchange.Proofs.Message.Received
import HttpExchange.Proofs.Request.Wire
import HttpExchange.Proofs.Status

/-!
# What an action answers

The response of an action says that it is JSON. A value that is no string is
written as JSON, under a status line and with its length. But a string is taken
for a payload that is still to be read as JSON: if it says a value, that value is
written, and otherwise the string is written without quotes. No text says the
string that it is, so a string comes back as itself only where reading makes a
string of a number, which is when the number is too large to be held.

## Main definitions

* `Json.answerText` — the text that answers with a value.

## Main results

* `Json.read?_answerText_iff` — the values that read back from it.
* `Context.respond_written` — what is written of a response.
-/

namespace HttpExchange

/-! ## The text of an answer -/

namespace Json

/-- The text that answers with a value. -/
def answerText : Json → Text
  | .str t =>
    match Decoder.readJson? t with
    | some v => v.write
    | none => t
  | v => v.write

/-- Whether a value is not a string. -/
def IsNoString (v : Json) : Prop := ∀ t, v ≠ .str t

theorem answerText_of_isNoString {v : Json} (h : v.IsNoString) : v.answerText = v.write := by
  cases v with
  | str t => exact absurd rfl (h t)
  | _ => rfl

theorem write_ne_nil {n : Nat} {v : Json} (h : IsReadable n v) : v.write ≠ [] := by
  cases h with
  | null | str => rw [write]; exact List.cons_ne_nil _ _
  | bool n b => cases b <;> (rw [write]; exact List.cons_ne_nil _ _)
  | num n hnumeral =>
      obtain ⟨c, t, rfl, -⟩ := hnumeral.head
      rw [write]
      exact List.cons_ne_nil c t
  | arr _ | obj _ _ => rw [write]; exact List.cons_ne_nil _ _

/-- Only the empty string has an answer without a payload. -/
theorem answerText_eq_nil_iff {n : Nat} {v : Json} (h : IsReadable n v) :
    v.answerText = [] ↔ v = .str [] := by
  cases v with
  | str t =>
      rcases Decoder.readJson?_cases t with ⟨source, hread, -, hvalue⟩ | ⟨-, hnone⟩
      · have hwritten := write_ne_nil (isReadable_of_read? hread).portable
        rw [answerText, hvalue]
        refine ⟨fun hnil => absurd hnil hwritten, fun heq => ?_⟩
        have hempty : read? [] = none := by decide +kernel
        rw [Json.str.inj heq, hempty] at hread
        cases hread
      · rw [answerText, hnone]
        exact ⟨fun hnil => congrArg Json.str hnil, Json.str.inj⟩
  | _ => exact ⟨fun hnil => absurd hnil (write_ne_nil h), nofun⟩

/-- **The values that read back from the text of their answer** are those that are no strings and
nest no deeper than reading allows, and the numerals of numbers that are not held. -/
theorem read?_answerText_iff {v : Json} :
    read? v.answerText = some v ↔
      IsReadable maxDepth v ∧ ∀ t, v = .str t → IsNumeral t ∧ ¬ IsHeld t := by
  cases v with
  | str t =>
      have hstring : (IsReadable maxDepth (.str t) ∧
          ∀ s, Json.str t = .str s → IsNumeral s ∧ ¬ IsHeld s) ↔ IsNumeral t ∧ ¬ IsHeld t :=
        ⟨fun h => h.2 t rfl, fun h => ⟨.str maxDepth t, fun s heq => Json.str.inj heq ▸ h⟩⟩
      rw [hstring, ← readJson?_eq_str_iff]
      rcases Decoder.readJson?_cases t with ⟨source, hread, -, hvalue⟩ | ⟨hnothing, hnone⟩
      · rw [answerText, hvalue]
        dsimp only
        rw [read?_write (isReadable_of_read? hread).portable]
      · rw [answerText, hnone]
        refine ⟨fun hread => ?_, nofun⟩
        dsimp only at hread
        rcases hnothing with hnothing | hnothing <;> rw [hnothing] at hread <;> cases hread
  | _ => exact ⟨fun h => ⟨isReadable_of_read? h, nofun⟩, fun h => read?_write h.1⟩

end Json

/-! ## The response -/

namespace Message

theorem setHeader_headers (name value : Text) (m : Message) :
    (m.setHeader name value).headers = m.headers.set name value := by
  unfold setHeader
  dsimp only
  split <;> rfl

/-- The payload of a message that says that it is JSON. -/
theorem payload_setBody_ofJson {m : Message}
    (h : Decoder.IsJsonType (Decoder.contentTypeOf m.headers)) (v : Json) :
    (m.setBody (Body.ofJson v)).payload = v.answerText := by
  have hstructured : ∀ w, (Body.structured w).encode m.headers.contentType? = w.write :=
    Decoder.encode_structured h
  cases v with
  | str t =>
      change (m.decoder.decode t m.headers).encode m.headers.contentType? = _
      rw [Decoder.decode_of_isJsonType h, Json.answerText]
      cases Decoder.readJson? t with
      | none => rfl
      | some w => exact hstructured w
  | _ => exact hstructured _

end Message

namespace Context

open Message Request

variable {requestId : Text} {config : HttpConfig} {k : Sink}

/-- The fields that every response of an action has. -/
def answerHeaders (requestId : Text) : Headers :=
  [⟨"Content-Type", ["application/json; charset=UTF-8"]⟩,
    ⟨"Access-Control-Allow-Origin", ["*"]⟩, ⟨"X-Request-Id", [requestId]⟩]

theorem create_headers : (create requestId {} config k).response.headers =
    answerHeaders requestId := by
  have hstart : (Response.create [] [] .empty config).headers = [] :=
    (create_frame [] .empty config.decoder).2.1
  have hmedia : (Headers.setContentType "application/json" []).setCharset "UTF-8" =
      [⟨"Content-Type", ["application/json; charset=UTF-8"]⟩] := by
    decide +kernel
  change ((((Response.create [] [] .empty config).setContentType "application/json").setCharset
    "UTF-8").setHeader "Access-Control-Allow-Origin" "*" |>.setHeader "X-Request-Id"
      requestId).headers = _
  rw [setHeader_headers, setHeader_headers]
  change Headers.set _ _ (Headers.set _ _ ((Headers.setContentType "application/json"
    (Response.create [] [] .empty config).headers).setCharset "UTF-8")) = _
  rw [hstart, hmedia]
  rfl

theorem create_protocol : (create requestId {} config k).response.protocol =
    Text.trim config.defaultProtocol := by
  unfold create
  dsimp only
  rw [(sameRecord_setHeader _ _ _).protocol, (sameRecord_setHeader _ _ _).protocol]
  rfl

theorem isJsonType_answerHeaders (requestId : Text) :
    Decoder.IsJsonType (Decoder.contentTypeOf (answerHeaders requestId)) := by
  have hmedia : (answerHeaders requestId).contentType? = some "application/json".toList := by
    change (MediaType.read "application/json; charset=UTF-8").essence.map Text.lower = _
    decide +kernel
  rw [Decoder.contentTypeOf, hmedia]
  exact .inl (by decide +kernel)

theorem wellFormed_answerHeaders (h : IsFieldValue requestId) :
    (answerHeaders requestId).WellFormed where
  distinct := by
    change (["content-type".toList, "access-control-allow-origin".toList,
      "x-request-id".toList] : List Text).Nodup
    decide
  names := by
    simp only [answerHeaders, List.forall_mem_cons]
    exact ⟨⟨by decide, by decide, by decide, by decide⟩, ⟨by decide, by decide, by decide, by decide⟩,
      ⟨by decide, by decide, by decide, by decide⟩, List.forall_mem_nil _⟩
  valued := by simp [answerHeaders]
  values := by
    simp only [answerHeaders, List.forall_mem_cons]
    exact ⟨⟨⟨by decide, by decide⟩, List.forall_mem_nil _⟩,
      ⟨⟨by decide, by decide⟩, List.forall_mem_nil _⟩, ⟨h, List.forall_mem_nil _⟩,
      List.forall_mem_nil _⟩

end Context

/-- A text that is a first line, some fields, a blank line and a payload. The fields give the length
of the payload once, if there is one. -/
structure Response.IsFramed (first payload wire : Text) : Prop where
  first : first ++ Request.lineBreak <+: wire
  fields : ∃ head hs, Request.splitHead wire = (head, payload) ∧
    Request.readFields ((Text.lines head).map Request.dropLineBreak).tail = .ok hs ∧
    hs.lengths = if payload.isEmpty then [] else [Numeral.ofNat (Text.utf8Size payload)]

open Message Request in
/-- What is written of a message is framed. -/
theorem Message.isFramed_render {first : Text} (hfirst : IsHeadLine first) {m : Message}
    (h : m.headers.WellFormed) : Response.IsFramed first m.payload (m.render first) where
  first := by
    rw [render, List.append_assoc, List.append_assoc]
    exact List.prefix_append _ _
  fields := by
    refine ⟨_, m.writtenHeaders, splitHead_render h hfirst, ?_, lengths_writtenHeaders m⟩
    rw [lines_render h hfirst]
    exact readFields_writtenFields h

namespace Context

open Message Request

theorem isHeadLine_statusLine {protocol : Text} (h : Text.IsWord protocol) (code : UInt16) :
    IsHeadLine (protocol ++ ' ' :: Status.line code) where
  first := by
    obtain ⟨c, rest, rfl⟩ := List.exists_cons_of_ne_nil h.nonempty
    exact ⟨c, rfl, h.unblank c List.mem_cons_self⟩
  lineFeed := by
    rw [List.mem_append, List.mem_cons]
    rintro (hmem | heq | hmem)
    · cases h.unblank '\n' hmem
    · cases heq
    · exact Status.lineFeed_not_mem_line code hmem

theorem applyAll_answerEdits (code : UInt16) (v : Json) (m : Message) :
    (answerEdits code v).foldl Edit.apply m = (m.setStatusCode code).setBody (Body.ofJson v) := rfl

theorem statusLine_setBody (code : UInt16) (b : Body) (m : Message) :
    Response.statusLine ((m.setStatusCode code).setBody b) =
      m.protocol ++ ' ' :: Status.line code := rfl

/-- A context whose response says that it is JSON answers with the text of the value. -/
theorem respond_framed {c : Context} (hwrite : c.sink.writeFault = none)
    (hflush : c.sink.flushFault = none)
    (hjson : Decoder.IsJsonType (Decoder.contentTypeOf c.response.headers))
    (hheaders : c.response.headers.WellFormed) (hprotocol : Text.IsWord c.response.protocol)
    (code : UInt16) (v : Json) :
    ∃ c' wire, c.respond code v = (.ok (), c') ∧ c'.sent = true ∧
      c'.sink.written = c.sink.written ++ wire ∧
      Response.statusLine c'.response = c.response.protocol ++ ' ' :: Status.line code ∧
      Response.IsFramed (Response.statusLine c'.response) v.answerText wire := by
  obtain ⟨c', hrespond, hsent, hresponse, hwritten⟩ := respond_eq_ok hwrite hflush code v
  rw [applyAll_answerEdits] at hresponse
  have hstatus : Response.statusLine c'.response =
      c.response.protocol ++ ' ' :: Status.line code := by
    rw [hresponse, statusLine_setBody]
  have hpayload : c'.response.payload = v.answerText := by
    rw [hresponse]
    exact payload_setBody_ofJson hjson v
  have hfirst : IsHeadLine (Response.statusLine c'.response) := by
    rw [hstatus]
    exact isHeadLine_statusLine hprotocol code
  have hframed : Response.IsFramed (Response.statusLine c'.response) c'.response.payload
      (Response.wire c'.response) := by
    refine isFramed_render hfirst ?_
    rw [hresponse]
    exact hheaders
  exact ⟨c', _, hrespond, hsent, hwritten, hstatus, hpayload ▸ hframed⟩

/-- **What is written of a response.** It is a status line, fields with the length of the payload,
and the payload, which is the value as JSON unless the value is a string. So it reads back as the
value, as long as that nests no deeper than reading allows. A string reads back as itself only if it
is the numeral of a number that is not held. -/
theorem respond_written (hid : IsFieldValue requestId)
    (hprotocol : Text.IsWord config.defaultProtocol) (hwrite : k.writeFault = none)
    (hflush : k.flushFault = none) (code : UInt16) {n : Nat} {v : Json}
    (hv : Json.IsReadable n v) :
    (∃ c wire, (create requestId {} config k).respond code v = (.ok (), c) ∧ c.sent = true ∧
      c.sink.written = k.written ++ wire ∧
      Response.statusLine c.response = config.defaultProtocol ++ ' ' :: Status.line code ∧
      Response.IsFramed (Response.statusLine c.response) v.answerText wire) ∧
    (v.IsNoString → v.answerText = v.write ∧
      Json.Token.readAll? v.answerText = some (Json.tokens v)) ∧
    (Json.read? v.answerText = some v ↔
      Json.IsReadable Json.maxDepth v ∧ ∀ t, v = .str t → Json.IsNumeral t ∧ ¬ Json.IsHeld t) ∧
    (v.answerText = [] ↔ v = .str []) := by
  refine ⟨?written, fun hno => ?_, Json.read?_answerText_iff, Json.answerText_eq_nil_iff hv⟩
  case written =>
    have hheaders : (create requestId {} config k).response.headers = answerHeaders requestId :=
      create_headers
    have hword : (create requestId {} config k).response.protocol = config.defaultProtocol := by
      rw [create_protocol, Text.trim_of_unblank hprotocol.unblank]
    rw [← hword]
    refine respond_framed hwrite hflush ?_ ?_ (hword ▸ hprotocol) code v
    · rw [hheaders]
      exact isJsonType_answerHeaders requestId
    · rw [hheaders]
      exact wellFormed_answerHeaders hid
  · have htokens := Json.readAll?_write hv [] Json.endsNumeral_nil
    rw [List.append_nil, Json.Token.readAll?, Option.map_some, List.append_nil] at htokens
    rw [Json.answerText_of_isNoString hno]
    exact ⟨rfl, htokens⟩

/-- An order that was created, with a name that has a line feed in it; and a number that is too large
to be held. -/
theorem order_respond_written :
    let requestId : Text := "0b5c0d4e-5f0a-4d53-9d0e-3d5a1f0c7a11"
    let order : Json := .obj [("id", .num "7"), ("name", .str "a\nb"), ("items", .arr [])]
    let large : Json := .str "123456789012345678901234567890"
    (∃ c wire, (create requestId {} {} {}).respond 201 order = (.ok (), c) ∧
      c.sink.written = wire ∧ Response.IsFramed "HTTP/1.1 201 Created" order.write wire) ∧
      Json.read? order.write = some order ∧ Json.read? large.answerText = some large := by
  intro requestId order large
  have hid : IsFieldValue requestId := .of_unblank (Text.unblank_iff.mpr (by decide))
  have hprotocol : Text.IsWord ({} : HttpConfig).defaultProtocol := by decide
  have horder : Json.IsReadable Json.maxDepth order :=
    Json.isReadable_of_read? (t := "\x7b\"id\":7,\"name\":\"a\\nb\",\"items\":[]\x7d") (by decide +kernel)
  have hnumeral : Json.IsNumeral "123456789012345678901234567890" ∧
      ¬ Json.IsHeld "123456789012345678901234567890" :=
    Json.readJson?_eq_str_iff.mp (by decide +kernel)
  obtain ⟨⟨c, wire, hrespond, -, hwritten, hstatus, hframed⟩, hwhole, hback, -⟩ :=
    respond_written (k := {}) hid hprotocol rfl rfl 201 horder
  obtain ⟨-, -, hlarge, -⟩ :=
    respond_written (k := {}) hid hprotocol rfl rfl 200 (v := large) (.str 0 _)
  have hline : ({} : HttpConfig).defaultProtocol ++ ' ' :: Status.line 201 =
      "HTTP/1.1 201 Created".toList := by
    decide +kernel
  rw [hstatus, hline, (hwhole nofun).1] at hframed
  rw [(hwhole nofun).1] at hback
  exact ⟨⟨c, wire, hrespond, hwritten, hframed⟩, hback.mpr ⟨horder, nofun⟩,
    hlarge.mpr ⟨.str _ _, fun t heq => Json.str.inj heq ▸ hnumeral⟩⟩

/-- A greeting is written without quotes and is no JSON text then, a string that says an array is
written as the array, and the empty string has no length. -/
theorem hello_unquoted :
    let c := ((create "0b5c0d4e-5f0a-4d53-9d0e-3d5a1f0c7a11" {} {} {}).respond 200 (.str "hello")).2
    c.sink.written = ("HTTP/1.1 200 OK\r\n".toList ++
      "Content-Type: application/json; charset=UTF-8\r\n".toList ++
      "Access-Control-Allow-Origin: *\r\n".toList ++
      "X-Request-Id: 0b5c0d4e-5f0a-4d53-9d0e-3d5a1f0c7a11\r\n".toList ++
      "Content-Length: 5\r\n\r\nhello".toList) ∧
      Json.read? "hello" = none ∧
      Json.read? (Json.str "[1]").answerText = some (.arr [.num "1"]) ∧
      (Json.str []).answerText = [] := by
  refine ⟨?_, ?_, ?_, ?_⟩ <;> decide +kernel

end Context

end HttpExchange
