import HttpExchange.Proofs.Message.Received
import HttpExchange.Proofs.Status

/-!
# The first line of a response

Whatever a message went through, its status stands for itself: it is left as it is
when it is given to a message again. And the line with its protocol and its status
falls apart again at the first space, if there is none in the protocol and the
protocol begins as one does. So the first line of a response reads back as itself.

## Main definitions

* `Message.IsSettled` — messages whose protocol and status stand for themselves.

## Main results

* `Message.isSettled_after` — every message is settled, after every history.
* `Response.applyHeadline_join` — a line falls apart again.
* `Response.statusLine_read_back` — the first line of a response reads back.
-/

namespace HttpExchange

namespace Message

/-! ## Messages -/

/-- A status that is given to a message is the one that the text stands for. -/
theorem setStatus_eq (t : Text) (m : Message) :
    m.setStatus t = { m with status := some (Status.ofText t) } := by
  unfold setStatus
  dsimp only
  cases hread : Numeral.readUInt16? (Text.trim t) <;> simp only [Status.ofText, hread]
  rfl

/-- A message whose protocol has no blanks around it and whose status stands for itself. -/
structure IsSettled (m : Message) : Prop where
  protocol : Text.trim m.protocol = m.protocol
  status : ∀ s ∈ m.status, Status.ofText s = s

theorem IsSettled.apply {m : Message} (h : m.IsSettled) (edit : Edit) :
    (Edit.apply m edit).IsSettled := by
  cases hrecords : edit.records with
  | false =>
      have hsame := Edit.apply_sameRecord hrecords m
      exact ⟨by rw [hsame.protocol, h.protocol], fun s hs => h.status s (hsame.status ▸ hs)⟩
  | true =>
      cases edit with
      | protocol t => exact ⟨Text.trim_trim t, h.status⟩
      | status t =>
          change (m.setStatus t).IsSettled
          rw [setStatus_eq]
          exact ⟨h.protocol, fun s hs => Option.some.inj hs ▸ Status.ofText_ofText t⟩
      | statusCode code =>
          exact ⟨h.protocol, fun s hs => Option.some.inj hs ▸ Status.ofText_line code⟩
      | clearStatus => exact ⟨h.protocol, nofun⟩
      | body _ | bodyRaw _ => exact ⟨h.protocol, h.status⟩
      | _ => cases hrecords

theorem isSettled_after (origin : Origin) (edits : List Edit) : (after origin edits).IsSettled :=
  after_of_step (fun _ => ⟨rfl, nofun⟩) (fun _ edit h => h.apply edit) origin edits

end Message

namespace Response

open Message

/-! ## First lines -/

/-- **A line falls apart into the protocol and the status that it was put together from.** -/
theorem applyHeadline_join {protocol status : Text} (hspace : ' ' ∉ protocol)
    (hname : namesProtocol protocol = true) (hprotocol : Text.trim protocol = protocol)
    (hstatus : Text.trim status = status) (hne : status ≠ []) (m : Message) :
    applyHeadline (protocol ++ ' ' :: status) m = (m.setProtocol protocol).setStatus status := by
  have hfilled : protocol ≠ [] := by
    rintro rfl
    cases hname
  have htrim : Text.trim (protocol ++ ' ' :: status) = protocol ++ ' ' :: status :=
    Text.trim_append_cons_eq_self hprotocol hstatus hfilled hne ' '
  unfold applyHeadline
  rw [htrim]
  dsimp only
  rw [Text.splitFirst_append hspace]
  exact if_pos hname

/-- The status that a message goes out with stands for itself. -/
theorem ofText_status {m : Message} (h : m.IsSettled) :
    Status.ofText (m.status.getD "200 OK".toList) = m.status.getD "200 OK".toList := by
  cases hstatus : m.status with
  | some s => exact h.status s hstatus
  | none =>
      have hline : Status.line 200 = "200 OK".toList := by decide +kernel
      change Status.ofText "200 OK".toList = "200 OK".toList
      rw [← hline, Status.ofText_line]

theorem status_ne_nil {m : Message} (hne : m.status ≠ some []) :
    m.status.getD "200 OK".toList ≠ [] := by
  cases hstatus : m.status with
  | some s =>
      rintro rfl
      exact hne hstatus
  | none => decide

/-- **The status line of a message reads back as itself**, whatever the message went through, if its
protocol begins as one does and has no space in it and its status is not empty. The response that
is read has the same protocol and the same status, which is that of a success where the message has
none, and its code is the one that this status begins with. -/
theorem statusLine_read_back (origin : Origin) (edits : List Edit)
    (hspace : ' ' ∉ (after origin edits).protocol)
    (hname : namesProtocol (after origin edits).protocol = true)
    (hne : (after origin edits).status ≠ some []) (hs : Headers) (b : Body) (config : HttpConfig) :
    let m := after origin edits
    let m' := create (statusLine m) hs b config
    let status := m.status.getD "200 OK".toList
    m'.protocol = m.protocol ∧ m'.status = some status ∧
      m'.statusCode = Status.leadingCode status ∧ statusLine m' = statusLine m := by
  intro m m' status
  have hsettled : m.IsSettled := isSettled_after origin edits
  have hofText : Status.ofText status = status := ofText_status hsettled
  have htrim : Text.trim status = status := hofText ▸ Status.trim_ofText status
  have hcreate := applyHeadline_join hspace hname hsettled.protocol htrim
    (status_ne_nil hne) ((Message.create hs b config.decoder).setProtocol config.defaultProtocol)
  rw [setStatus_eq, hofText] at hcreate
  have hprotocol : m'.protocol = m.protocol :=
    (congrArg Message.protocol hcreate).trans hsettled.protocol
  have hstatus : m'.status = some status := congrArg Message.status hcreate
  refine ⟨hprotocol, hstatus, ?_, ?_⟩
  · rw [Message.statusCode, hstatus]
    rfl
  · rw [statusLine, hprotocol, hstatus]
    rfl

/-- A response whose status is a code with a sign and a zero before it, and a response whose code is
no registered one, with words after it that two spaces separate. -/
theorem zeroPadded_statusLine_read_back :
    let padded := after (.response "hTTp/1.0 +0404 " [] .empty {}) [.method "put"]
    let unknown := after (.plain [] .empty {}) [.protocol " HTTP/2\t/x", .status "70000  odd"]
    (statusLine padded = "hTTp/1.0 404 Not Found".toList ∧
      statusLine (create (statusLine padded) [] .empty {}) = statusLine padded ∧
      (create (statusLine padded) [] .empty {}).statusCode = 404) ∧
    (create (statusLine unknown) [] .empty {}).protocol = "HTTP/2\t/x".toList ∧
      (create (statusLine unknown) [] .empty {}).status = some "70000  odd".toList ∧
      (create (statusLine unknown) [] .empty {}).statusCode = 0 := by
  intro padded unknown
  obtain ⟨-, -, hcode, hline⟩ := statusLine_read_back (.response "hTTp/1.0 +0404 " [] .empty {})
    [.method "put"] (by decide +kernel) (by decide +kernel) (by decide +kernel) [] .empty {}
  obtain ⟨hprotocol, hstatus, hcode', -⟩ := statusLine_read_back (.plain [] .empty {})
    [.protocol " HTTP/2\t/x", .status "70000  odd"] (by decide +kernel) (by decide +kernel)
    (by decide +kernel) [] .empty {}
  exact ⟨⟨by decide +kernel, hline, hcode.trans (by decide +kernel)⟩,
    hprotocol.trans (by decide +kernel), hstatus.trans (by decide +kernel),
    hcode'.trans (by decide +kernel)⟩

end Response

end HttpExchange
