import HttpExchange.Proofs.Message.Host
import HttpExchange.Proofs.Request.Wire
import Mathlib.Data.List.Basic
import Mathlib.Data.List.Induction

/-!
# Messages that carry the host of their URI

A message whose URI names a host has a `Host` field, which is how the host goes
over the wire. A URI that is set writes the field, and a field that is set writes
the URI. But fields that are set all at once write the URI only if `Host` is among
them: otherwise the URI keeps the host that it has, and the field is missing until
an edit writes one of the two again.

## Main definitions

* `CarriesHost` — messages that have the field if their URI names a host.
* `DropsHost` — histories that lose the field.

## Main results

* `carriesHost_apply_iff` — which edits lose the field.
* `carriesHost_after_iff` — which histories do.
* `host_carried_unless_dropped` — otherwise the message is written with its host.
-/

namespace HttpExchange.Message

/-- A message whose URI names a host has a `Host` field. -/
def CarriesHost (m : Message) : Prop :=
  m.uri.host.isSome = true → (m.headers.get? "Host").isSome = true

theorem CarriesHost.of_field {m : Message} {value : Text}
    (h : m.headers.get? "Host" = some value) : m.CarriesHost :=
  fun _ => Option.isSome_of_mem h

/-! ## Edits of the URI and of the `Host` field -/

theorem carriesHost_syncHost (m : Message) : m.syncHost.CarriesHost := by
  unfold syncHost
  cases hauthority : m.uri.authority? with
  | some authority =>
      have hname : Headers.keyOf "Host" = Headers.keyOf "Host" := rfl
      exact .of_field (Headers.get?_set_self hname authority m.headers)
  | none =>
      -- without an authority there is no host but the one that the field names
      have hnone : m.uri.host = none := Option.map_eq_none_iff.mp hauthority
      unfold adoptHost
      cases hfield : m.headers.get? "Host" with
      | some value => exact .of_field hfield
      | none =>
          intro hhost
          rw [hnone] at hhost
          cases hhost

theorem carriesHost_setUri (t : Text) (m : Message) : (m.setUri t).CarriesHost := by
  have hsync := carriesHost_syncHost { m with uri := Uri.parse t }
  unfold setUri
  dsimp only
  split <;> exact hsync

theorem carriesHost_setHeader {name : Text} (hname : Headers.keyOf name = Headers.keyOf "Host")
    (value : Text) (m : Message) : (m.setHeader name value).CarriesHost := by
  unfold setHeader
  dsimp only
  split <;> exact .of_field (Headers.get?_set_self hname value m.headers)

/-- Fields that are set all at once keep the host of the URI unless they have one. -/
theorem carriesHost_setHeaders_iff (hs : Headers) (m : Message) :
    (m.setHeaders hs).CarriesHost ↔ ¬ (hs.get? "Host" = none ∧ m.uri.host.isSome = true) := by
  unfold setHeaders adoptHost
  dsimp only
  cases hfield : hs.get? "Host" with
  | some value => exact iff_of_true (.of_field hfield) nofun
  | none =>
      refine ⟨fun hcarries hlost => ?_, fun hkept hhost => absurd ⟨rfl, hhost⟩ hkept⟩
      have hpresent : (hs.get? "Host").isSome = true := hcarries hlost.2
      rw [hfield] at hpresent
      cases hpresent

/-- **An edit that writes the URI or the field** loses the field only by setting other fields in
its place. -/
theorem carriesHost_apply_iff {edit : Edit} (h : edit.placesHost = true) (m : Message) :
    (Edit.apply m edit).CarriesHost ↔
      ¬ ∃ hs, edit = .headers hs ∧ hs.get? "Host" = none ∧ m.uri.host.isSome = true := by
  cases edit with
  | uri t => exact iff_of_true (carriesHost_setUri t m) nofun
  | headers hs =>
      refine (carriesHost_setHeaders_iff hs m).trans (not_congr ?_)
      simp only [Edit.headers.injEq, exists_eq_left']
  | header name value =>
      exact iff_of_true (carriesHost_setHeader (beq_iff_eq.mp h) value m) nofun
  | _ => cases h

/-- Any other edit changes nothing about it. -/
theorem carriesHost_apply_of_frame {edit : Edit} (h : edit.placesHost = false) (m : Message) :
    (Edit.apply m edit).CarriesHost ↔ m.CarriesHost := by
  obtain ⟨huri, hhost⟩ := Edit.apply_frame h m
  unfold CarriesHost
  rw [huri, hhost]

/-- A first line loses no field. -/
theorem carriesHost_origin (origin : Origin) : origin.message.CarriesHost := by
  refine Origin.message_of_create (fun m edit hline h => ?_)
    (fun hs b d => carriesHost_setUri [] _) origin
  cases hplaces : edit.placesHost with
  | false => exact (carriesHost_apply_of_frame hplaces m).mpr h
  | true =>
      refine (carriesHost_apply_iff hplaces m).mpr ?_
      rintro ⟨hs, rfl, -⟩
      cases hline

/-! ## Histories -/

/-- A history that loses the `Host` field: all fields are replaced by ones without it while the URI
names a host, and nothing writes the URI or the field after that. -/
def DropsHost (origin : Origin) (edits : List Edit) : Prop :=
  ∃ before hs later, edits = before ++ .headers hs :: later ∧ hs.get? "Host" = none ∧
    (after origin before).uri.host.isSome = true ∧ ∀ edit ∈ later, edit.placesHost = false

theorem not_dropsHost_nil (origin : Origin) : ¬ DropsHost origin [] := by
  rintro ⟨before, hs, later, heq, -⟩
  exact List.append_ne_nil_of_right_ne_nil before (List.cons_ne_nil _ later) heq.symm

/-- A history loses the field with its last edit, or it lost the field before and the last edit
does not write it. -/
theorem dropsHost_concat_iff (origin : Origin) (edits : List Edit) (edit : Edit) :
    DropsHost origin (edits ++ [edit]) ↔
      (∃ hs, edit = .headers hs ∧ hs.get? "Host" = none ∧
        (after origin edits).uri.host.isSome = true) ∨
      edit.placesHost = false ∧ DropsHost origin edits := by
  constructor
  · rintro ⟨before, hs, later, heq, hfield, hhost, hlater⟩
    rcases List.eq_nil_or_concat' later with rfl | ⟨later, last, rfl⟩
    · obtain ⟨rfl, hlast⟩ := List.append_inj' heq rfl
      exact .inl ⟨hs, List.head_eq_of_cons_eq hlast, hfield, hhost⟩
    · rw [← List.cons_append, ← List.append_assoc] at heq
      obtain ⟨rfl, hlast⟩ := List.append_inj' heq rfl
      obtain rfl := List.head_eq_of_cons_eq hlast
      obtain ⟨hearlier, hplaces⟩ := List.forall_mem_append.mp hlater
      exact .inr ⟨hplaces edit (List.mem_singleton_self edit),
        before, hs, later, rfl, hfield, hhost, hearlier⟩
  · rintro (⟨hs, rfl, hfield, hhost⟩ | ⟨hplaces, before, hs, later, rfl, hfield, hhost, hlater⟩)
    · exact ⟨edits, hs, [], rfl, hfield, hhost, List.forall_mem_nil _⟩
    · refine ⟨before, hs, later ++ [edit], by simp, hfield, hhost, ?_⟩
      exact List.forall_mem_append.mpr ⟨hlater, List.forall_mem_singleton.mpr hplaces⟩

/-- **The field is missing after the histories that lose it**, and after no other one. -/
theorem carriesHost_after_iff (origin : Origin) (edits : List Edit) :
    (after origin edits).CarriesHost ↔ ¬ DropsHost origin edits := by
  induction edits using List.reverseRecOn with
  | nil => exact iff_of_true (carriesHost_origin origin) (not_dropsHost_nil origin)
  | append_singleton edits edit ih =>
      rw [after_concat, dropsHost_concat_iff]
      cases hplaces : edit.placesHost with
      | true =>
          rw [carriesHost_apply_iff hplaces]
          simp
      | false =>
          have hother : ∀ hs, edit ≠ .headers hs := by
            rintro hs rfl
            cases hplaces
          rw [carriesHost_apply_of_frame hplaces, ih]
          simp [hother]

/-- **A message is written with the host that its URI names**, in a field that says the place of the
URI, unless its history lost the field. Then the URI names a host and the field is missing. -/
theorem host_carried_unless_dropped (origin : Origin) (edits : List Edit) :
    let m := after origin edits
    (¬ DropsHost origin edits → m.uri.host.isSome = true →
      ∃ name value, Headers.isHost name = true ∧ (name, value) ∈ m.writtenFields ∧
        m.headers.get? "Host" = some value ∧ m.uri.place = (Uri.empty.setAuthority value).place) ∧
    (DropsHost origin edits → m.uri.host.isSome = true ∧ m.headers.get? "Host" = none) := by
  intro m
  have hcarries : m.CarriesHost ↔ ¬ DropsHost origin edits := carriesHost_after_iff origin edits
  constructor
  · intro hkept hhost
    obtain ⟨value, hvalue⟩ := Option.isSome_iff_exists.mp (hcarries.mpr hkept hhost)
    have hagrees : m.HostAgrees :=
      after_of_step (fun d value hnone => by cases hnone) (fun _ edit h => h.edit edit) origin edits
    have hwritten : m.writtenHeaders.get? "Host" = some value :=
      (get?_writtenHeaders m (by decide)).trans hvalue
    obtain ⟨name, hname, hmem⟩ := Headers.exists_mem_pairs_of_get? hwritten
    rw [pairs_writtenHeaders] at hmem
    exact ⟨name, value, Headers.isHost_iff.mpr hname, hmem, hvalue, hagrees value hvalue⟩
  · intro hdropped
    have hlost := mt hcarries.mp (not_not_intro hdropped)
    rw [CarriesHost, Classical.not_imp, Bool.not_eq_true, Option.isSome_eq_false_iff,
      Option.isNone_iff_eq_none] at hlost
    exact hlost

/-- A request that gets other fields without a `Host` field, and then a URI with a port. -/
theorem retargeted_host_carried :
    let origin : Origin := .request "GET /a HTTP/1.1" [⟨"Host", ["example.test"]⟩] .empty {}
    let edits : List Edit := [.headers [⟨"Accept", ["*/*"]⟩]]
    let mended := after origin (edits ++ [.uri "http://other.test:81/b", .cookie "k" "v" {}])
    ((after origin edits).uri.host = some "example.test".toList ∧
      (after origin edits).headers.get? "Host" = none) ∧
    ∃ name, Headers.isHost name = true ∧ (name, "other.test:81".toList) ∈ mended.writtenFields := by
  intro origin edits mended
  have hdropped : DropsHost origin edits :=
    ⟨[], _, [], rfl, by decide, by decide +kernel, List.forall_mem_nil _⟩
  have hkept : ¬ DropsHost origin
      (edits ++ [.uri "http://other.test:81/b", .cookie "k" "v" {}]) := by
    rw [List.append_cons, dropsHost_concat_iff, dropsHost_concat_iff]
    rintro (⟨hs, heq, -⟩ | ⟨-, ⟨hs, heq, -⟩ | ⟨hplaces, -⟩⟩)
    · cases heq
    · cases heq
    · cases hplaces
  obtain ⟨-, hlost⟩ := host_carried_unless_dropped origin edits
  obtain ⟨hcarried, -⟩ := host_carried_unless_dropped origin
    (edits ++ [.uri "http://other.test:81/b", .cookie "k" "v" {}])
  obtain ⟨name, value, hname, hmem, hvalue, -⟩ := hcarried hkept (by decide +kernel)
  have hother : mended.headers.get? "Host" = some "other.test:81".toList := by decide +kernel
  obtain rfl := Option.some.inj (hvalue.symm.trans hother)
  exact ⟨⟨by decide +kernel, (hlost hdropped).2⟩, name, hname, hmem⟩

/-- The URI of a message keeps its host when all fields are removed. -/
theorem host_kept_without_field :
    let m := after (.plain [] .empty {}) [.uri "http://a.test/", .headers []]
    m.uri.host = some "a.test".toList ∧ m.headers.get? "Host" = none ∧ m.writtenFields = [] := by
  decide +kernel

end HttpExchange.Message
