import HttpExchange.Proofs.Form.RoundTrip
import HttpExchange.Proofs.Message.Merge
import HttpExchange.Proofs.Request.Frame
import HttpExchange.Proofs.Request.Head
import HttpExchange.Proofs.Uri.Resolve

/-!
# Relative targets

A target that is a path says where on a host a request goes, and the `Host` field
says which host that is. Both make up the URI of the request, and the parameters
of the query go into its body. This holds of every path that does not look like a
whole URI. A path with `://` somewhere in it does: it is read as a URI, which it
is not, and then the path and its query are lost.

## Main results

* `create_relative` — a path is resolved against the `Host` field.
* `create_path_with_phrase` — what remains of a path with `://` in it.
-/

namespace HttpExchange

namespace Request

open Message

/-- What may stand as the target of a request: a path without blanks. -/
structure IsPath (target : Text) : Prop where
  slash : target.head? = some '/'
  unblank : ∀ c ∈ target, Text.isBlank c = false

theorem IsPath.isWord {target : Text} (h : IsPath target) : Text.IsWord target := by
  refine ⟨?_, h.unblank⟩
  rintro rfl
  cases h.slash

/-- A URI with an authority that is set. -/
theorem setUri_of_authority {t authority : Text} (h : (Uri.parse t).authority? = some authority)
    (m : Message) :
    (m.setUri t).uri = Uri.parse t ∧
      (m.setUri t).body = match (Uri.parse t).query with
        | some query => extendWith (.obj (Form.parse m.decoder.maxInputVars query)) m.body
        | none => m.body := by
  have hsync : ({ m with uri := Uri.parse t } : Message).syncHost =
      { m with uri := Uri.parse t, headers := m.headers.set "Host" authority } := by
    rw [syncHost, h]
  unfold setUri
  dsimp only
  rw [hsync]
  dsimp only
  cases (Uri.parse t).query <;> exact ⟨rfl, rfl⟩

/-- The request of a path, before its target is applied. -/
theorem exists_create_path {word path protocol : Text} (hword : Text.IsWord word)
    (hmethod : (Method.read? word).isSome = true) (hpath : IsPath path)
    (hprotocol : Text.IsWord protocol) (hs : Headers) (b : Body) (config : HttpConfig) :
    ∃ m : Message, create (firstLine word path protocol) hs b config =
        applyTarget config.defaultScheme path m ∧
      m.headers = hs ∧ m.decoder = config.decoder ∧ m.body = (start hs b config).body := by
  obtain ⟨method, hmethod⟩ := Option.isSome_iff_exists.mp hmethod
  have hstarts := starts hs b config
  have hwords := words_firstLine hword hpath.isWord hprotocol
  exact ⟨({ start hs b config with method } : Message).setProtocol protocol,
    create_of_words hwords hmethod hs b config, hstarts.headers, hstarts.decoder, rfl⟩

/-- **A path is resolved against the `Host` field.** The request points to the host that the field
names, with the default scheme. Its path is what precedes the first question mark or number sign of
the target, and its query what stands between a question mark that no number sign precedes and the
next number sign or the end. Every parameter of the query is merged into the body. -/
theorem create_relative {host word target protocol : Text} (hs : Headers) (b : Body)
    (config : HttpConfig) (hscheme : Uri.IsWebScheme config.defaultScheme)
    (hhost : hs.get? "Host" = some host)
    (hauthority : (Uri.parse ("http://".toList ++ host)).authority? = some host)
    (hword : Text.IsWord word) (hmethod : (Method.read? word).isSome = true)
    (htarget : IsPath target) (hprotocol : Text.IsWord protocol)
    (hphrase : Text.hasPhrase target "://" = false) :
    let m := create (firstLine word target protocol) hs b config
    (m.uri.scheme = some config.defaultScheme ∧ m.uri.authority? = some host ∧
      m.uri.path = some (Uri.pathOf target) ∧ m.uri.query = Uri.queryOf target) ∧
    (Uri.queryOf target = none → m.body = (start hs b config).body) ∧
    ∀ query, Uri.queryOf target = some query →
      m.body = extendWith (.obj (Form.parse config.maxInputVars query)) (start hs b config).body ∧
      ((start hs b config).body.size + (Form.parse config.maxInputVars query).length ≤ 2 ^ 64 →
        ∀ k v, (k, v) ∈ Form.parse config.maxInputVars query → m.body.HoldsParam k v) := by
  obtain ⟨m, hcreate, hheaders, hdecoder, hbody⟩ :=
    exists_create_path hword hmethod htarget hprotocol hs b config
  obtain ⟨path, rfl⟩ := List.head?_eq_some_iff.mp htarget.slash
  obtain ⟨u, hparse, hu⟩ := Uri.parse_append hscheme hauthority htarget.unblank
  have happly : applyTarget config.defaultScheme ('/' :: path) m =
      m.setUri (config.defaultScheme ++ "://".toList ++ host ++ '/' :: path) := by
    have hslash : Text.startsWith ('/' :: path) "/" = true := rfl
    rw [applyTarget, hphrase, hslash, applyPath, hheaders, hhost]
    rfl
  obtain ⟨huri, hmerged⟩ := setUri_of_authority (hparse ▸ hu.2.1) m
  rw [hparse] at huri hmerged
  rw [hu.2.2.2, hbody, hdecoder] at hmerged
  dsimp only
  rw [hcreate, happly, huri]
  refine ⟨hu, fun hnone => ?_, fun query hquery => ?_⟩
  · rw [hmerged, hnone]
  · rw [hquery] at hmerged
    refine ⟨hmerged, fun hbound k v hmem => ?_⟩
    rw [hmerged]
    exact holds_extendWith (Form.nodup_keys_parse _ _) hbound hmem

/-- A page of a host with a port, whose query names a parameter that the body has too. -/
theorem login_page_relative :
    let host : Text := "example.com:8080"
    let target : Text := "/login?next=a%20b&x[]=1#top"
    let body : Body := .structured (.obj [("next", .null), ("7", .bool true)])
    let m := create (firstLine "get" target "HTTP/1.1") [⟨"Host", [host]⟩] body {}
    (Uri.parse ("http://".toList ++ host)).authority? = some host ∧ IsPath target ∧
      m.uri.authority? = some host ∧ m.uri.path = some "/login".toList ∧
      m.body.HoldsParam "next" (.str "a b") := by
  intro host target body m
  have hauthority : (Uri.parse ("http://".toList ++ host)).authority? = some host := by
    decide +kernel
  have hword : Text.IsWord "get" := by decide
  have hprotocol : Text.IsWord "HTTP/1.1" := by decide
  have htarget : IsPath target := ⟨rfl, Text.unblank_iff.mpr (by decide)⟩
  obtain ⟨⟨-, hhost, hpath, -⟩, -, hquery⟩ := create_relative [⟨"Host", [host]⟩] body
    {} (.inl rfl) rfl hauthority hword (by decide) htarget hprotocol (by decide)
  obtain ⟨-, hparams⟩ := hquery "next=a%20b&x[]=1" (by decide)
  exact ⟨hauthority, htarget, hhost, hpath.trans (by decide), hparams (by decide +kernel) _ _
    (by decide +kernel)⟩

/-- **A path with `://` in it is lost**, and its query with it: the request points to the host that
the field names, and to nothing on it. -/
theorem create_path_with_phrase {host word target protocol : Text} (hs : Headers) (b : Body)
    (config : HttpConfig) (hhost : hs.get? "Host" = some host) (hword : Text.IsWord word)
    (hmethod : (Method.read? word).isSome = true) (htarget : IsPath target)
    (hslash : Text.startsWith target "//" = false) (hprotocol : Text.IsWord protocol)
    (hphrase : Text.hasPhrase target "://" = true) :
    let m := create (firstLine word target protocol) hs b config
    m.uri = Uri.empty.setAuthority host ∧ m.body = (start hs b config).body := by
  obtain ⟨m, hcreate, hheaders, -, hbody⟩ :=
    exists_create_path hword hmethod htarget hprotocol hs b config
  have hempty : Uri.parse target = .empty :=
    Uri.parse_path htarget.slash hslash htarget.unblank
  dsimp only
  rw [hcreate, applyTarget, if_pos hphrase, setUri_of_empty hempty, adoptHost]
  dsimp only
  rw [hheaders, hhost]
  exact ⟨rfl, hbody⟩

/-- A page that another one is to follow. Neither the page nor what is to follow it is left of the
request. -/
theorem login_page_lost :
    let host : Text := "example.com"
    let target : Text := "/login?next=http://a.test/x"
    let m := create (firstLine "GET" target "HTTP/1.1") [⟨"Host", [host]⟩] .empty {}
    (Uri.parse ("http://".toList ++ host)).authority? = some host ∧ IsPath target ∧
      m.uri.scheme ≠ some "http".toList ∧ m.uri.path ≠ some (Uri.pathOf target) ∧
      m.uri.query ≠ Uri.queryOf target ∧ ¬ m.body.HoldsParam "next" (.str "http://a.test/x") := by
  intro host target m
  have hauthority : (Uri.parse ("http://".toList ++ host)).authority? = some host := by
    decide +kernel
  have hword : Text.IsWord "GET" := by decide
  have hprotocol : Text.IsWord "HTTP/1.1" := by decide
  have htarget : IsPath target := ⟨rfl, Text.unblank_iff.mpr (by decide)⟩
  obtain ⟨huri, hbody⟩ := create_path_with_phrase [⟨"Host", [host]⟩] .empty {} rfl hword
    (by decide) htarget (by decide) hprotocol (by decide)
  refine ⟨hauthority, htarget, ?_, ?_, ?_, ?_⟩
  · rw [huri]; decide +kernel
  · rw [huri]; decide +kernel
  · rw [huri]; decide +kernel
  · rintro ⟨members, hmembers, -⟩
    have hraw : (start [⟨"Host", [host]⟩] .empty {}).body = .empty := rfl
    rw [hbody, hraw] at hmembers
    cases hmembers

end Request

end HttpExchange
