import HttpExchange.Proofs.Numeral.Integer
import HttpExchange.Proofs.Text.Blank
import HttpExchange.Proofs.Text.Split
import HttpExchange.Uri
import Mathlib.Data.List.TakeWhile

/-!
# Hosts and ports read back

The host of a URI that was read is a valid one, so it is not empty, and it has no
colon unless it is in brackets. Therefore a port that is put behind it is found
again, and so is the place where the host ends. None of the characters that
delimit an authority is in it.

## Main results

* `splitHostPort?_hostPort` — a host and a port that were put together are found again.
* `readHead?_cases` — the forms in which a URI begins.
* `isHost_of_parse` — what the host of a URI that was read looks like.
* `place_setAuthority_authority` — the authority of a URI that was read gives its host
  and its port.
-/

namespace HttpExchange

namespace Host

theorem ne_nil_of_isValid {host : Text} (h : isValid host = true) : host ≠ [] := by
  rintro rfl
  exact absurd h (by decide)

theorem staysForbidden_colon : staysForbidden ':' = true := by decide

theorem colon_not_mem_of_isValid {host : Text} (h : isValid host = true)
    (hplain : host.head? ≠ some '[') : ':' ∉ host := by
  intro hmem
  have hany : host.any staysForbidden = true :=
    List.any_eq_true.mpr ⟨':', hmem, staysForbidden_colon⟩
  unfold isValid at h
  split at h
  · exact hplain rfl
  · simp [domain?, hany] at h

end Host

namespace Uri

/-- How the host of a URI stands between its delimiters: in brackets, or without any colon. -/
structure IsHost (host : Text) : Prop where
  valid : Host.isValid host = true
  shape : (∃ inside, host = '[' :: inside ++ [']'] ∧ ']' ∉ inside) ∨
    (host.head? ≠ some '[' ∧ ':' ∉ host)
  plain : ∀ c ∈ host, endsAuthority c = false ∧ c ≠ '@'

theorem nonEmpty_of_ne_nil {t : Text} (h : t ≠ []) : nonEmpty t = some t := by
  rw [nonEmpty, List.isEmpty_eq_false_iff.mpr h]
  rfl

theorem IsHost.ne_nil {host : Text} (h : IsHost host) : host ≠ [] := Host.ne_nil_of_isValid h.valid

/-! ## Ports -/

theorem readPort?_portText (port : UInt16) : readPort? (portText port) = some (some port) := by
  have hdigits : (portText port).all Char.isDigit = true :=
    List.all_eq_true.mpr fun c hc => Numeral.isDigit_of_mem_ofNat hc
  have hempty : (portText port).isEmpty = false := by
    simp [portText, Numeral.ofNat_ne_nil]
  have hread : Numeral.readUInt16? (portText port) = some port := Numeral.readUInt16?_ofNat port
  simp [readPort?, hdigits, hempty, hread]

/-! ## Host and port -/

/-- The text of a host with its port. -/
def hostPort (host : Text) (port : Option UInt16) : Text :=
  host ++ around ":" (port.map portText) []

theorem authority?_eq (u : Uri) : u.authority? = u.host.map (hostPort · u.port) := rfl

theorem hostPort_none (host : Text) : hostPort host none = host := List.append_nil host

theorem hostPort_some (host : Text) (port : UInt16) :
    hostPort host (some port) = host ++ ':' :: portText port := by
  simp [hostPort, around]

/-- Besides the characters of the host, there is at most a colon with digits. -/
theorem mem_hostPort {host : Text} {port : Option UInt16} {c : Char} (h : c ∈ hostPort host port) :
    c ∈ host ∨ c = ':' ∨ c.isDigit = true := by
  cases port with
  | none =>
      rw [hostPort_none] at h
      exact .inl h
  | some p =>
      rw [hostPort_some, List.mem_append, List.mem_cons] at h
      exact h.imp_right fun h => h.imp_right Numeral.isDigit_of_mem_ofNat

theorem unblank_hostPort {host : Text} (h : ∀ c ∈ host, Text.isBlank c = false)
    {port : Option UInt16} {c : Char} (hc : c ∈ hostPort host port) : Text.isBlank c = false := by
  rcases mem_hostPort hc with hc | rfl | hdigit
  · exact h c hc
  · decide
  · exact Text.isBlank_of_isDigit hdigit

theorem colon_not_mem_portText (port : UInt16) : ':' ∉ portText port :=
  Numeral.not_mem_ofNat (by decide) port.toNat

theorem splitBracketed?_append {inside : Text} (h : ']' ∉ inside) (rest : Text) :
    splitBracketed? ('[' :: inside ++ ']' :: rest) = match rest with
      | [] => some ('[' :: inside ++ [']'], [])
      | ':' :: port => some ('[' :: inside ++ [']'], port)
      | _ => none := by
  have hclosing : ']' ∉ '[' :: inside := by simp [h]
  rw [splitBracketed?, Text.splitFirst_append hclosing]
  rfl

/-- **A host that was put before its port is found again**, and so is the port. -/
theorem splitHostPort?_hostPort {host : Text} (h : IsHost host) (port : Option UInt16) :
    splitHostPort? (hostPort host port) = some (host, port) := by
  rcases h.shape with ⟨inside, rfl, hinside⟩ | ⟨hhead, hcolon⟩
  · have hstarts : ∀ rest, Text.startsWith ('[' :: inside ++ ']' :: rest) "[" = true := fun _ => rfl
    cases port with
    | none =>
        have hsplit := splitBracketed?_append hinside []
        rw [hostPort_none, splitHostPort?, hstarts [], if_pos rfl, hsplit]
        rfl
    | some p =>
        have hsplit := splitBracketed?_append hinside (':' :: portText p)
        rw [hostPort_some, List.append_assoc, List.singleton_append, splitHostPort?, hstarts,
          if_pos rfl, hsplit]
        simp [readPort?_portText]
  · obtain ⟨c, rest, rfl⟩ := List.exists_cons_of_ne_nil h.ne_nil
    have hc : ('[' == c) = false := by
      rw [beq_eq_false_iff_ne]
      rintro rfl
      exact hhead rfl
    have hstarts : ∀ tail, Text.startsWith ((c :: rest) ++ tail) "[" = false := by
      intro tail
      show ('[' == c && _) = false
      rw [hc, Bool.false_and]
    cases port with
    | none =>
        have hstart := hstarts []
        rw [List.append_nil] at hstart
        have hsplit := Text.splitLast_eq_none_iff.mpr hcolon
        rw [hostPort_none, splitHostPort?, hstart, hsplit]
        rfl
    | some p =>
        have hsplit := Text.splitLast_append (colon_not_mem_portText p) (c :: rest)
        rw [hostPort_some, splitHostPort?, hstarts, hsplit]
        simp [readPort?_portText]

/-! ## Reading an authority -/

theorem eq_of_splitBracketed? {t host port : Text} (h : splitBracketed? t = some (host, port)) :
    ∃ inside rest, t = inside ++ ']' :: rest ∧ ']' ∉ inside ∧ host = inside ++ [']'] := by
  obtain ⟨⟨inside, rest⟩, hsplit, hrest⟩ := Option.bind_eq_some_iff.mp h
  have ht := Text.eq_of_splitFirst hsplit
  have hinside := Text.not_mem_of_splitFirst hsplit
  refine ⟨inside, rest, ht, hinside, ?_⟩
  simp only at hrest
  split at hrest <;> simp_all

/-- A host that was split off begins the text, and it is in brackets or has no colon. -/
theorem host_of_splitHostPort? {t host : Text} {port : Option UInt16}
    (h : splitHostPort? t = some (host, port)) (hvalid : Host.isValid host = true) :
    host <+: t ∧ ((∃ inside, host = '[' :: inside ++ [']'] ∧ ']' ∉ inside) ∨
      (host.head? ≠ some '[' ∧ ':' ∉ host)) := by
  unfold splitHostPort? at h
  obtain ⟨⟨host', port'⟩, hparts, hport⟩ := Option.bind_eq_some_iff.mp h
  obtain ⟨p, -, hpair⟩ := Option.map_eq_some_iff.mp hport
  obtain ⟨rfl, -⟩ := Prod.mk.inj hpair
  split at hparts
  · next hstarts =>
      obtain ⟨inside, rest, rfl, hinside, rfl⟩ := eq_of_splitBracketed? hparts
      have hlead : inside ++ [']'] <+: inside ++ ']' :: rest := by simp
      cases inside with
      | nil => exact absurd hstarts (by simp [Text.startsWith])
      | cons c inside =>
          have hc : '[' = c := by simpa [Text.startsWith] using hstarts
          rw [← hc] at hinside hlead ⊢
          exact ⟨hlead, .inl ⟨inside, rfl, fun hmem => hinside (List.mem_cons_of_mem _ hmem)⟩⟩
  · next hstarts =>
      have hlead : host' <+: t := by
        cases hsplit : Text.splitLast ':' t with
        | none =>
            obtain ⟨rfl, -⟩ : t = host' ∧ [] = port' := by simpa [hsplit] using hparts
            exact List.prefix_refl t
        | some parts =>
            obtain rfl : parts = (host', port') := by simpa [hsplit] using hparts
            exact ⟨':' :: port', (Text.eq_of_splitLast hsplit).1.symm⟩
      have hhead : host'.head? ≠ some '[' := by
        intro hhead
        obtain ⟨rest, rfl⟩ := List.head?_eq_some_iff.mp hhead
        obtain ⟨tail, rfl⟩ := hlead
        exact hstarts rfl
      exact ⟨hlead, .inr ⟨hhead, Host.colon_not_mem_of_isValid hvalid hhead⟩⟩

/-- The user with the password of an authority, and the host with the port. -/
def splitAuthority (t : Text) : (Option Text × Option Text) × Text :=
  match Text.splitLast '@' t with
  | some (info, place) => (splitUser info, place)
  | none => ((none, none), t)

theorem splitAuthority_suffix (t : Text) :
    (splitAuthority t).2 <:+ t ∧ '@' ∉ (splitAuthority t).2 := by
  unfold splitAuthority
  cases hsplit : Text.splitLast '@' t with
  | none => exact ⟨List.suffix_refl t, Text.splitLast_eq_none_iff.mp hsplit⟩
  | some parts =>
      obtain ⟨ht, hat⟩ := Text.eq_of_splitLast hsplit
      exact ⟨⟨parts.1 ++ ['@'], by rw [ht]; simp⟩, hat⟩

theorem splitAuthority_of_not_mem {t : Text} (h : '@' ∉ t) :
    splitAuthority t = ((none, none), t) := by
  rw [splitAuthority, Text.splitLast_eq_none_iff.mpr h]

theorem readAuthority?_eq (u : Uri) (t : Text) :
    readAuthority? u t =
      let parts := splitAuthority (t.takeWhile (!endsAuthority ·))
      (splitHostPort? parts.2).bind fun (host, port) =>
        if Host.isValid host then
          some ({ u with user := parts.1.1, password := parts.1.2, host := some host, port },
            t.dropWhile (!endsAuthority ·))
        else none := by
  unfold readAuthority? splitAuthority
  generalize t.takeWhile (!endsAuthority ·) = authority
  cases hsplit : Text.splitLast '@' authority <;> simp only [hsplit] <;> rfl

/-- What an authority that was read gives to a URI, and what it leaves. -/
theorem readAuthority?_eq_some {u u' : Uri} {t rest : Text}
    (h : readAuthority? u t = some (u', rest)) :
    ∃ user password host port, u' = { u with user, password, host := some host, port } ∧
      rest = t.dropWhile (!endsAuthority ·) ∧ IsHost host ∧ host <:+: t ∧
      (user, password) = (splitAuthority (t.takeWhile (!endsAuthority ·))).1 := by
  rw [readAuthority?_eq] at h
  obtain ⟨⟨host, port⟩, hsplit, hrest⟩ := Option.bind_eq_some_iff.mp h
  simp only [Option.ite_none_right_eq_some, Option.some.injEq, Prod.mk.injEq] at hrest
  obtain ⟨hvalid, rfl, rfl⟩ := hrest
  obtain ⟨hlead, hshape⟩ := host_of_splitHostPort? hsplit hvalid
  obtain ⟨htail, hat⟩ := splitAuthority_suffix (t.takeWhile (!endsAuthority ·))
  have hplain : ∀ c ∈ host, endsAuthority c = false ∧ c ≠ '@' := by
    intro c hc
    have hpart := hlead.subset hc
    have hall := List.mem_takeWhile_imp (htail.subset hpart)
    refine ⟨by simpa using hall, ?_⟩
    rintro rfl
    exact hat hpart
  have hpiece : host <:+: t :=
    (hlead.isInfix.trans htail.isInfix).trans (List.takeWhile_prefix _).isInfix
  exact ⟨_, _, host, port, rfl, rfl, ⟨hvalid, hshape, hplain⟩, hpiece, rfl⟩

/-! ## Reading a URI -/

/-- Whether a text is taken as a port, and what is before it as a host. -/
def isPort (t : Text) : Bool := !t.isEmpty && t.all Char.isDigit

theorem isSchemeChar_of_isScheme {s : Text} (h : isScheme s = true) :
    ∀ c ∈ s, isSchemeChar c = true := by
  cases s with
  | nil => cases h
  | cons c cs =>
      obtain ⟨hc, hcs⟩ := Bool.and_eq_true _ _ ▸ h
      refine List.forall_mem_cons.mpr ⟨?_, List.all_eq_true.mp hcs⟩
      simp [isSchemeChar, Char.isAlphanum, hc]

theorem slash_not_mem_of_isScheme {s : Text} (h : isScheme s = true) : '/' ∉ s :=
  fun hmem => absurd (isSchemeChar_of_isScheme h '/' hmem) (by decide)

theorem colon_not_mem_of_isScheme {s : Text} (h : isScheme s = true) : ':' ∉ s :=
  fun hmem => absurd (isSchemeChar_of_isScheme h ':' hmem) (by decide)

/-- What precedes the path of a URI without slashes in front is an authority, or a scheme that no
port follows. -/
theorem readLead?_cases {t rest : Text} {u : Uri} (h : readLead? t = some (u, rest)) :
    readAuthority? {} t = some (u, rest) ∨
      ∃ scheme, isScheme scheme = true ∧ t = scheme ++ ':' :: rest ∧
        isPort (rest.takeWhile (!endsAuthority ·)) = false ∧ u = { scheme := some scheme } := by
  unfold readLead? at h
  split at h
  · cases h
  · next scheme port hsplit =>
      obtain ⟨tail, rfl, hport⟩ := Text.exists_of_splitFirst_takeWhile hsplit
      split at h
      · exact .inl h
      · next hno =>
          split at h
          · next hscheme =>
              obtain ⟨rfl, hrest⟩ := Prod.mk.inj (Option.some.inj h)
              have hdrop : (scheme ++ ':' :: tail).drop (scheme.length + 1) = tail := by simp
              obtain rfl : tail = rest := hdrop.symm.trans hrest
              refine .inr ⟨scheme, hscheme, rfl, ?_, rfl⟩
              rw [hport]
              exact Bool.not_eq_true _ |>.mp hno
          · cases h

theorem readHead?_of_cut {t scheme lead : Text} (hcut : Text.cut "://" t = some (scheme, lead))
    (hscheme : isScheme scheme = true) :
    readHead? t = readAuthority? { scheme := some scheme } lead := by
  rw [readHead?, hcut]
  exact if_pos hscheme

/-- A text in which no scheme precedes the first `://` is read by what it begins with. -/
theorem readHead?_of_forall_cut {t : Text} (h : ∀ scheme lead,
      Text.cut "://" t = some (scheme, lead) → isScheme scheme = false) :
    readHead? t = (Text.afterPrefix? "//" t).elim (readLead? t) (readAuthority? {}) := by
  rw [readHead?]
  cases hcut : Text.cut "://" t with
  | none => cases Text.afterPrefix? "//" t <;> rfl
  | some parts =>
      have hscheme := h parts.1 parts.2 hcut
      dsimp only
      rw [hscheme]
      cases Text.afterPrefix? "//" t <;> rfl

/-- What precedes the path of a URI is an authority, with or without a scheme before it, or it is a
scheme alone. Then neither two slashes nor a port follow, which would make it another thing. -/
theorem readHead?_cases {t rest : Text} {u : Uri} (h : readHead? t = some (u, rest)) :
    (∃ scheme lead, (∀ s ∈ scheme, isScheme s = true) ∧ lead <:+ t ∧
        readAuthority? { scheme } lead = some (u, rest)) ∨
      ∃ scheme, isScheme scheme = true ∧ t = scheme ++ ':' :: rest ∧
        Text.startsWith rest "//" = false ∧
        isPort (rest.takeWhile (!endsAuthority ·)) = false ∧ u = { scheme := some scheme } := by
  have hnone : ∀ s ∈ (none : Option Text), isScheme s = true := fun _ hs => nomatch hs
  by_cases hcut : ∃ scheme lead, Text.cut "://" t = some (scheme, lead) ∧ isScheme scheme = true
  · obtain ⟨scheme, lead, hcut, hscheme⟩ := hcut
    rw [readHead?_of_cut hcut hscheme] at h
    have hsuffix : lead <:+ t := ⟨scheme ++ "://".toList, (Text.eq_of_cut hcut).symm⟩
    exact .inl ⟨some scheme, lead, fun s hs => Option.some.inj hs ▸ hscheme, hsuffix, h⟩
  · have hforall : ∀ scheme lead, Text.cut "://" t = some (scheme, lead) →
        isScheme scheme = false := by
      intro scheme lead hfound
      exact Bool.not_eq_true _ |>.mp fun hscheme => hcut ⟨scheme, lead, hfound, hscheme⟩
    rw [readHead?_of_forall_cut hforall] at h
    cases hlead : Text.afterPrefix? "//" t with
    | some lead =>
        rw [hlead] at h
        exact .inl ⟨none, lead, hnone, ⟨_, (Text.eq_of_afterPrefix? hlead).symm⟩, h⟩
    | none =>
        rw [hlead] at h
        rcases readLead?_cases h with hread | ⟨scheme, hscheme, rfl, hport, hu⟩
        · exact .inl ⟨none, t, hnone, List.suffix_refl t, hread⟩
        · refine .inr ⟨scheme, hscheme, rfl, ?_, hport, hu⟩
          -- Two slashes would have been found with the colon before them.
          refine Bool.not_eq_true _ |>.mp fun hslashes => hcut ?_
          obtain ⟨tail, rfl⟩ := List.isPrefixOf_iff_prefix.mp hslashes
          have hfound := Text.cut_append (colon_not_mem_of_isScheme hscheme) "//".toList tail
          exact ⟨scheme, tail, by simpa using hfound, hscheme⟩

/-- Reading gives the empty URI, or takes a text without blanks apart. -/
theorem parse_cases (t : Text) :
    parse t = empty ∨ ∃ lead rest, (∀ c ∈ Text.trim t, Text.isBlank c = false) ∧
      readHead? (Text.trim t) = some (lead, rest) ∧ parse t = readTail lead rest := by
  unfold parse parse?
  split
  · exact .inl rfl
  · next hplain =>
      cases hhead : readHead? (Text.trim t) with
      | none => exact .inl rfl
      | some parts =>
          refine .inr ⟨parts.1, parts.2, fun c hc => ?_, rfl, rfl⟩
          by_contra hblank
          have hany : (Text.trim t).any Text.isBlank = true :=
            List.any_eq_true.mpr ⟨c, hc, by simpa using hblank⟩
          simp [hany] at hplain

/-- The host of a URI that was read. -/
theorem isHost_of_parse {t host : Text} (h : (parse t).host = some host) :
    IsHost host ∧ ∀ c ∈ host, Text.isBlank c = false := by
  rcases parse_cases t with hempty | ⟨lead, rest, hplain, hhead, heq⟩
  · rw [hempty] at h
    cases h
  · rw [heq] at h
    change lead.host = some host at h
    rcases readHead?_cases hhead with ⟨s, authority, -, htail, hread⟩ | ⟨_, -, -, -, -, rfl⟩
    · obtain ⟨user, password, host', port, rfl, -, hhost, hpiece, -⟩ :=
        readAuthority?_eq_some hread
      obtain rfl : host' = host := Option.some.inj h
      exact ⟨hhost, fun c hc => hplain c (htail.subset (hpiece.subset hc))⟩
    · cases h

/-! ## Authorities read back -/

/-- Where a URI points to. -/
def place (u : Uri) : Option Text × Option UInt16 := (u.host, u.port)

theorem place_setAuthority_eq (u v : Uri) (t : Text) :
    (u.setAuthority t).place = (v.setAuthority t).place := rfl

/-- **The authority of a URI that was read reads back** as the same host and the same port. -/
theorem place_setAuthority_authority {t authority : Text}
    (h : (parse t).authority? = some authority) (u : Uri) :
    (u.setAuthority authority).place = (parse t).place := by
  rw [authority?_eq] at h
  obtain ⟨host, hhost, rfl⟩ := Option.map_eq_some_iff.mp h
  obtain ⟨hshape, hplain⟩ := isHost_of_parse hhost
  have htrim : Text.trim (hostPort host (parse t).port) = hostPort host (parse t).port :=
    Text.trim_of_unblank fun _ hc => unblank_hostPort hplain hc
  have hnonempty := nonEmpty_of_ne_nil hshape.ne_nil
  simp only [setAuthority, htrim, splitHostPort?_hostPort hshape, Option.getD_some, place, hhost,
    hnonempty]

end Uri
end HttpExchange
