import HttpExchange.Proofs.Headers.Values
import HttpExchange.Proofs.Message.History
import HttpExchange.Proofs.Uri.Authority

/-!
# The host of a message

The `Host` field and the authority of the URI say the same thing twice. Every
edit that touches one of them mends the other, so whenever the field is present
its first value says where the URI points to. An authority that came out of a
URI says it without loss: it reads back as the same host and the same port.

## Main results

* `HostAgrees.edit` — every edit keeps field and URI in agreement.
* `host_drives_authority` — so they agree after every history.
-/

namespace HttpExchange.Message

/-- The URI points to where the first value of the `Host` field says, if there is one. -/
def HostAgrees (m : Message) : Prop :=
  ∀ value, m.headers.get? "Host" = some value → m.uri.place = (Uri.empty.setAuthority value).place

theorem HostAgrees.of_unchanged {m m' : Message} (h : m.HostAgrees) (huri : m'.uri = m.uri)
    (hhost : m'.headers.get? "Host" = m.headers.get? "Host") : m'.HostAgrees := by
  intro value hvalue
  rw [huri]
  exact h value (hhost ▸ hvalue)

/-! ## Edits of the URI and of the `Host` field -/

theorem hostAgrees_adoptHost (m : Message) : m.adoptHost.HostAgrees := by
  intro value hvalue
  unfold adoptHost at hvalue ⊢
  cases hhost : m.headers.get? "Host" with
  | none =>
      rw [hhost] at hvalue
      cases hhost.symm.trans hvalue
  | some host =>
      rw [hhost] at hvalue
      obtain rfl : host = value := Option.some.inj (hhost.symm.trans hvalue)
      exact Uri.place_setAuthority_eq _ _ _

/-- A URI that was read may write its authority into the `Host` field. -/
theorem hostAgrees_syncHost {m : Message} {t : Text} (huri : m.uri = Uri.parse t) :
    m.syncHost.HostAgrees := by
  unfold syncHost
  cases hauthority : m.uri.authority? with
  | none => exact hostAgrees_adoptHost m
  | some authority =>
      intro value hvalue
      obtain rfl : authority = value := by
        have hname : Headers.keyOf "Host" = Headers.keyOf "Host" := rfl
        have hset := Headers.get?_set_self hname authority m.headers
        exact Option.some.inj (hset.symm.trans hvalue)
      rw [huri] at hauthority
      change m.uri.place = _
      rw [huri]
      exact (Uri.place_setAuthority_authority hauthority Uri.empty).symm

theorem hostAgrees_setUri (t : Text) (m : Message) : (m.setUri t).HostAgrees := by
  have hsync : ({ m with uri := Uri.parse t } : Message).syncHost.HostAgrees :=
    hostAgrees_syncHost rfl
  unfold setUri
  dsimp only
  split
  · exact hsync.of_unchanged rfl rfl
  · exact hsync

/-- The `Host` field that is set says where the URI points to from then on. -/
theorem hostAgrees_setHeader {name : Text} (hname : Headers.keyOf name = Headers.keyOf "Host")
    (value : Text) (m : Message) : (m.setHeader name value).HostAgrees := by
  have heq : Text.eqIgnoreCase (Text.trim name) "host" = true := beq_iff_eq.mpr hname
  unfold setHeader
  dsimp only
  rw [if_pos heq]
  intro first hfirst
  obtain rfl : value = first := by
    have hset := Headers.get?_set_self hname value m.headers
    exact Option.some.inj (hset.symm.trans hfirst)
  exact Uri.place_setAuthority_eq _ _ _

end HttpExchange.Message

/-! ## All edits -/

namespace HttpExchange.Edit

/-- Whether an edit writes the URI or the `Host` field. -/
def placesHost : Edit → Bool
  | .uri _ | .headers _ => true
  | .header name _ => Headers.keyOf name == Headers.keyOf "Host"
  | _ => false

/-- Every other edit leaves both alone. -/
theorem apply_frame {edit : Edit} (h : edit.placesHost = false) (m : Message) :
    (apply m edit).uri = m.uri ∧
      (apply m edit).headers.get? "Host" = m.headers.get? "Host" := by
  have hmedia : Headers.keyOf "Content-Type" ≠ Headers.keyOf "Host" := by decide
  have hcookie : Headers.keyOf "Set-Cookie" ≠ Headers.keyOf "Host" := by decide
  cases edit with
  | method t => exact ⟨rfl, rfl⟩
  | protocol t => exact ⟨rfl, rfl⟩
  | status t =>
      change (m.setStatus t).uri = _ ∧ (m.setStatus t).headers.get? "Host" = _
      unfold Message.setStatus
      dsimp only
      split <;> exact ⟨rfl, rfl⟩
  | statusCode code => exact ⟨rfl, rfl⟩
  | clearStatus => exact ⟨rfl, rfl⟩
  | uri t => cases h
  | headers hs => cases h
  | header name value =>
      have hname : Headers.keyOf name ≠ Headers.keyOf "Host" := beq_eq_false_iff_ne.mp h
      have heq : ¬ Text.eqIgnoreCase (Text.trim name) "host" = true := fun heq =>
        hname (beq_iff_eq.mp heq)
      change (m.setHeader name value).uri = _ ∧ (m.setHeader name value).headers.get? "Host" = _
      unfold Message.setHeader
      dsimp only
      rw [if_neg heq]
      exact ⟨rfl, Headers.get?_set_of_ne hname value m.headers⟩
  | cookie name value attributes =>
      exact ⟨rfl, Headers.get?_append_of_ne hcookie _ m.headers⟩
  | charset t => exact ⟨rfl, Headers.get?_set_of_ne hmedia _ m.headers⟩
  | contentType t => exact ⟨rfl, Headers.get?_set_of_ne hmedia _ m.headers⟩
  | body b => exact ⟨rfl, rfl⟩
  | bodyRaw b => exact ⟨rfl, rfl⟩
  | extendBody b => exact ⟨rfl, rfl⟩
  | param name v => exact ⟨rfl, rfl⟩
  | params values => exact ⟨rfl, rfl⟩
  | dropParam name =>
      obtain ⟨body, heq⟩ := m.dropParam_eq name
      rw [apply, heq]
      exact ⟨rfl, rfl⟩
  | dropParams names =>
      obtain ⟨body, heq⟩ := m.dropParams_eq names
      rw [apply, heq]
      exact ⟨rfl, rfl⟩

end HttpExchange.Edit

namespace HttpExchange.Message

theorem HostAgrees.edit {m : Message} (h : m.HostAgrees) (edit : Edit) :
    (Edit.apply m edit).HostAgrees := by
  cases hplaces : edit.placesHost with
  | false =>
      obtain ⟨huri, hhost⟩ := Edit.apply_frame hplaces m
      exact h.of_unchanged huri hhost
  | true =>
      cases edit with
      | uri t => exact hostAgrees_setUri t m
      | headers hs => exact hostAgrees_adoptHost _
      | header name value => exact hostAgrees_setHeader (beq_iff_eq.mp hplaces) value m
      | _ => cases hplaces

/-- **The `Host` field drives the authority.** After every history, a `Host` field that is present
says where the URI points to. And the authority of any URI that was read, written into that field
under any spelling of its name, gives the host and the port of that URI. -/
theorem host_drives_authority (origin : Origin) (edits : List Edit) :
    (∀ value, (after origin edits).headers.get? "Host" = some value →
      (after origin edits).uri.place = (Uri.empty.setAuthority value).place) ∧
    ∀ t authority name : Text, (Uri.parse t).authority? = some authority →
      Headers.keyOf name = Headers.keyOf "Host" →
      (Edit.apply (after origin edits) (.header name authority)).uri.place =
        (Uri.parse t).place := by
  have hblank : ∀ d, (blank d).HostAgrees := fun d value hvalue => by cases hvalue
  have hagrees : (after origin edits).HostAgrees :=
    after_of_step hblank (fun _ edit h => h.edit edit) origin edits
  refine ⟨hagrees, fun t authority name hauthority hname => ?_⟩
  have hset := Headers.get?_set_self hname authority (after origin edits).headers
  have hwritten : (Edit.apply (after origin edits) (.header name authority)).headers.get? "Host" =
      some authority := by
    show ((after origin edits).setHeader name authority).headers.get? "Host" = some authority
    unfold setHeader
    split <;> exact hset
  rw [hagrees.edit (.header name authority) authority hwritten]
  exact Uri.place_setAuthority_authority hauthority Uri.empty

/-- A request for an IPv6 address with a port, whose cookie is set before its `Host` field is
written with a blank after the name. -/
theorem ipv6_host_drives_authority :
    let m := after (.request "GET /a HTTP/1.1" [⟨"Host", ["example.test"]⟩] .empty {})
      [.uri "http://[::1]:8080/x", .cookie "k" "v" {}]
    m.uri.place = (some "[::1]".toList, some 8080) ∧
      (Edit.apply m (.header "HOST " "[::2]:81")).uri.place = (some "[::2]".toList, some 81) := by
  intro m
  obtain ⟨hfield, hauthority⟩ := host_drives_authority
    (.request "GET /a HTTP/1.1" [⟨"Host", ["example.test"]⟩] .empty {})
    [.uri "http://[::1]:8080/x", .cookie "k" "v" {}]
  have hfirst := hfield "[::1]:8080" (by decide +kernel)
  have hsecond := hauthority "//[::2]:81" "[::2]:81" "HOST " (by decide +kernel) (by decide)
  exact ⟨hfirst.trans (by decide +kernel), hsecond.trans (by decide +kernel)⟩

end HttpExchange.Message
