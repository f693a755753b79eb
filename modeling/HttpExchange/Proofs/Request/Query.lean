import HttpExchange.Proofs.Request.Target

/-!
# The query of a target with and without a `Host` field

The parameters of a query go into the body whether or not a `Host` field says
which host the target is on, but the query is looked for in two ways. With the
field, the target becomes a URI, and the query of a URI is what stands between
a question mark that no number sign precedes and the next number sign; an empty
one is none. Without the field, the target is cut at its first question mark
before any number sign is looked for, and what is found always counts.

So the two agree on a target that has no question mark, or whose first one begins
a query that is not empty. On any other path the request without the field takes
parameters out of the fragment, or takes an empty query for a body.

## Main results

* `Headers.addsHost_set` — what it is to add a `Host` field.
* `queryOf_append`, `bareQuery_append` — the two ways to look for a query.
* `create_body_addsHost` — the body with the field and the body without it.
-/

namespace HttpExchange

/-- Header fields to which a `Host` field is added that was not there. -/
structure Headers.AddsHost (host : Text) (hs hs' : Headers) : Prop where
  absent : hs.get? "Host" = none
  host : hs'.get? "Host" = some host
  others : ∀ name, keyOf name ≠ keyOf "Host" → hs'.get? name = hs.get? name

theorem Headers.addsHost_set {hs : Headers} (h : hs.get? "Host" = none) (host : Text) :
    AddsHost host hs (hs.set "Host" host) where
  absent := h
  host := get?_set_self rfl host hs
  others := fun _ hname => get?_set_of_ne (Ne.symm hname) host hs

namespace Request

open Message

/-! ## The body before a target is applied -/

theorem start_body_structured (hs : Headers) (v : Json) (config : HttpConfig) :
    (start hs (.structured v) config).body = .structured v := by
  change (Message.create hs (.structured v) config.decoder).body = _
  rw [Message.create, setUri_of_empty rfl, adoptHost_body]
  rfl

/-- How a payload is read does not depend on the `Host` field. -/
theorem start_body_addsHost {host : Text} {hs hs' : Headers} (h : hs.AddsHost host hs') (b : Body)
    (config : HttpConfig) : (start hs' b config).body = (start hs b config).body := by
  cases b with
  | structured v => rw [start_body_structured, start_body_structured]
  | raw t =>
      have htype := h.others "Content-Type" (by decide)
      have hmedia : hs'.contentType? = hs.contentType? := by
        rw [Headers.contentType?, Headers.contentType?, Headers.mediaType?, Headers.mediaType?,
          htype]
      rw [start_body, start_body, Decoder.decode, Decoder.decode, Decoder.value?, Decoder.value?,
        Decoder.contentTypeOf, Decoder.contentTypeOf, hmedia, htype]

/-! ## Where a query is looked for -/

/-- The query of a path when no field names a host: what stands between the first question mark
and the next number sign or the end, even when that is empty. -/
def bareQuery (target : Text) : Option Text :=
  (Text.splitFirst '?' target).map fun (_, rest) => rest.takeWhile (· != '#')

theorem bareQuery_append {path : Text} (h : '?' ∉ path) (rest : Text) :
    bareQuery (path ++ '?' :: rest) = some (rest.takeWhile (· != '#')) := by
  rw [bareQuery, Text.splitFirst_append h]
  rfl

/-- Only a question mark that no number sign precedes begins the query of a URI. -/
theorem queryOf_of_not_mem {target : Text} (h : '?' ∉ target.takeWhile (· != '#')) :
    Uri.queryOf target = none := by
  have hall : ∀ c ∈ target.takeWhile (· != '#'), (c != '?') = true := fun c hc =>
    bne_iff_ne.mpr fun heq => h (heq ▸ hc)
  rw [Uri.queryOf, List.dropWhile_eq_nil_iff.mpr hall]
  rfl

theorem queryOf_append {path : Text} (h : '?' ∉ path) (rest : Text) :
    Uri.queryOf (path ++ '?' :: rest) =
      if '#' ∈ path then none else Uri.nonEmpty (rest.takeWhile (· != '#')) := by
  split
  · next hsign =>
      have hcut : (path.takeWhile (· != '#')).length ≠ path.length := fun heq => by
        have hself := (List.takeWhile_prefix (· != '#')).eq_of_length heq
        have hall := List.takeWhile_eq_self_iff.mp hself '#' hsign
        exact bne_iff_ne.mp hall rfl
      refine queryOf_of_not_mem fun hmem => h ?_
      rw [List.takeWhile_append, if_neg hcut] at hmem
      exact (List.takeWhile_prefix _).subset hmem
  · next hsign =>
      have hmark : ∀ c ∈ path, (c != '?') = true := fun c hc =>
        bne_iff_ne.mpr fun heq => h (heq ▸ hc)
      have hkept : ∀ c ∈ path, (c != '#') = true := fun c hc =>
        bne_iff_ne.mpr fun heq => hsign (heq ▸ hc)
      rw [Uri.queryOf, List.takeWhile_append_of_pos hkept, List.takeWhile_cons_of_pos (by rfl),
        Text.dropWhile_append_cons hmark (by rfl)]
      rfl

/-- A path whose first question mark, if it has one, begins a query that is not empty: no number
sign stands before it or directly behind it. -/
def HasPlainQuery (target : Text) : Prop :=
  ∀ path rest, target = path ++ '?' :: rest → '?' ∉ path →
    '#' ∉ path ∧ rest.takeWhile (· != '#') ≠ []

/-- A query that is not empty, in its place, is found in both ways. -/
theorem HasPlainQuery.bareQuery_eq {target : Text} (h : HasPlainQuery target) :
    bareQuery target = Uri.queryOf target := by
  cases hsplit : Text.splitFirst '?' target with
  | none =>
      have hmark := Text.splitFirst_eq_none_iff.mp hsplit
      rw [bareQuery, hsplit, queryOf_of_not_mem fun hmem =>
        hmark ((List.takeWhile_prefix _).subset hmem)]
      rfl
  | some parts =>
      have hpath := Text.not_mem_of_splitFirst hsplit
      obtain rfl := Text.eq_of_splitFirst hsplit
      obtain ⟨hsign, hne⟩ := h _ _ rfl hpath
      rw [bareQuery_append hpath, queryOf_append hpath, if_neg hsign, Uri.nonEmpty_of_ne_nil hne]

/-- Any other query is found in the path only. -/
theorem queryOf_eq_none {path rest : Text} (hpath : '?' ∉ path)
    (h : '#' ∈ path ∨ rest.takeWhile (· != '#') = []) :
    Uri.queryOf (path ++ '?' :: rest) = none := by
  rw [queryOf_append hpath]
  rcases h with hsign | hempty
  · exact if_pos hsign
  · rw [hempty]
    exact ite_self none

/-! ## The body after a target is applied -/

section Applied

variable {word target protocol : Text} (hword : Text.IsWord word)
  (hmethod : (Method.read? word).isSome = true) (htarget : IsPath target)
  (hprotocol : Text.IsWord protocol)

include hword hmethod htarget hprotocol

/-- A target that looks like a whole URI is read as one, whatever the fields are. -/
theorem create_body_of_phrase (hphrase : Text.hasPhrase target "://" = true) (hs : Headers)
    (b : Body) (config : HttpConfig) :
    (create (firstLine word target protocol) hs b config).body =
      withQuery config.maxInputVars (Uri.parse target).query (start hs b config).body := by
  obtain ⟨m, hcreate, -, hdecoder, hbody⟩ :=
    exists_create_path hword hmethod htarget hprotocol hs b config
  rw [hcreate, applyTarget, if_pos hphrase, setUri_body_eq, hdecoder, hbody]
  rfl

/-- Without a `Host` field, the body gets the parameters that follow the first question mark. -/
theorem create_body_of_no_host (hphrase : Text.hasPhrase target "://" = false) {hs : Headers}
    (hhost : hs.get? "Host" = none) (b : Body) (config : HttpConfig) :
    (create (firstLine word target protocol) hs b config).body =
      withQuery config.maxInputVars (bareQuery target) (start hs b config).body := by
  obtain ⟨m, hcreate, hheaders, hdecoder, hbody⟩ :=
    exists_create_path hword hmethod htarget hprotocol hs b config
  have hslash : Text.startsWith target "/" = true := by
    obtain ⟨path, rfl⟩ := List.head?_eq_some_iff.mp htarget.slash
    rfl
  rw [hcreate, applyTarget, hphrase, hslash, if_neg Bool.false_ne_true, if_pos rfl, applyPath,
    hheaders, hhost, ← hbody]
  dsimp only [bareQuery]
  cases Text.splitFirst '?' target with
  | none => rfl
  | some parts =>
      dsimp only [mergeQuery]
      rw [hdecoder]
      rfl

/-- With a `Host` field, the body gets the parameters of the URI that the target becomes. -/
theorem create_body_of_host (hphrase : Text.hasPhrase target "://" = false) {host : Text}
    {hs : Headers} (hhost : hs.get? "Host" = some host)
    (hauthority : (Uri.parse ("http://".toList ++ host)).authority? = some host) (b : Body)
    {config : HttpConfig} (hscheme : Uri.IsWebScheme config.defaultScheme) :
    (create (firstLine word target protocol) hs b config).body =
      withQuery config.maxInputVars (Uri.queryOf target) (start hs b config).body := by
  obtain ⟨m, hcreate, hheaders, hdecoder, hbody⟩ :=
    exists_create_path hword hmethod htarget hprotocol hs b config
  obtain ⟨path, rfl⟩ := List.head?_eq_some_iff.mp htarget.slash
  obtain ⟨u, hparse, -, -, -, hquery⟩ := Uri.parse_append hscheme hauthority htarget.unblank
  have hslash : Text.startsWith ('/' :: path) "/" = true := rfl
  rw [hcreate, applyTarget, hphrase, hslash, if_neg Bool.false_ne_true, if_pos rfl, applyPath,
    hheaders, hhost]
  dsimp only
  rw [setUri_body_eq, hparse, hquery, hdecoder, hbody]
  rfl

variable {host : Text} {hs hs' : Headers} (hadds : hs.AddsHost host hs')
  (hauthority : (Uri.parse ("http://".toList ++ host)).authority? = some host) (b : Body)
  {config : HttpConfig} (hscheme : Uri.IsWebScheme config.defaultScheme)

include hadds hauthority hscheme

/-- With the field added, the query of the URI counts, and without it the one of the path. -/
theorem create_bodies_of_path (hphrase : Text.hasPhrase target "://" = false) :
    (create (firstLine word target protocol) hs' b config).body =
        withQuery config.maxInputVars (Uri.queryOf target) (start hs b config).body ∧
      (create (firstLine word target protocol) hs b config).body =
        withQuery config.maxInputVars (bareQuery target) (start hs b config).body := by
  constructor
  · rw [← start_body_addsHost hadds b config]
    exact create_body_of_host hword hmethod htarget hprotocol hphrase hadds.host hauthority b
      hscheme
  · exact create_body_of_no_host hword hmethod htarget hprotocol hphrase hadds.absent b config

/-- A whole URI and a query that is not empty, in its place, give the same body in both ways. -/
theorem create_body_of_plain
    (h : Text.hasPhrase target "://" = true ∨ HasPlainQuery target) :
    (create (firstLine word target protocol) hs' b config).body =
      (create (firstLine word target protocol) hs b config).body := by
  cases hphrase : Text.hasPhrase target "://" with
  | true =>
      have hwhole := create_body_of_phrase hword hmethod htarget hprotocol hphrase
      rw [hwhole hs', hwhole hs, start_body_addsHost hadds]
  | false =>
      rw [hphrase] at h
      obtain ⟨hplaced, hbare⟩ := create_bodies_of_path hword hmethod htarget hprotocol hadds
        hauthority b hscheme hphrase
      rw [hplaced, hbare, (h.resolve_left Bool.false_ne_true).bareQuery_eq]

/-- Any other query is added to the body without the field only. -/
theorem create_bodies_of_loose (hphrase : Text.hasPhrase target "://" = false) {path rest : Text}
    (heq : target = path ++ '?' :: rest) (hmark : '?' ∉ path)
    (hloose : '#' ∈ path ∨ rest.takeWhile (· != '#') = []) :
    (create (firstLine word target protocol) hs' b config).body = (start hs b config).body ∧
      (create (firstLine word target protocol) hs b config).body = extendWith
        (.obj (Form.parse config.maxInputVars (rest.takeWhile (· != '#'))))
        (start hs b config).body := by
  obtain ⟨hplaced, hbare⟩ := create_bodies_of_path hword hmethod htarget hprotocol hadds hauthority
    b hscheme hphrase
  rw [heq, queryOf_eq_none hmark hloose] at hplaced
  rw [heq, bareQuery_append hmark] at hbare
  rw [heq]
  exact ⟨hplaced, hbare⟩

end Applied

/-- A first word that is neither a method nor a target leaves what follows it unread. -/
theorem create_body_of_no_method {word target protocol : Text} (hword : Text.IsWord word)
    (hslash : '/' ∉ word) (hmethod : Method.read? word = none) (htarget : IsPath target)
    (hprotocol : Text.IsWord protocol) (hs : Headers) (b : Body) (config : HttpConfig) :
    (create (firstLine word target protocol) hs b config).body = (start hs b config).body := by
  have hphrase : Text.hasPhrase word "://" = false :=
    Text.hasPhrase_of_not_mem (c := '/') (by decide) hslash
  have hpath : Text.startsWith word "/" = false := by
    refine Bool.eq_false_iff.mpr fun hstarts => hslash ?_
    exact (List.isPrefixOf_iff_prefix.mp hstarts).subset List.mem_cons_self
  rw [create_eq, applyHeadline, words_firstLine hword htarget.isWord hprotocol]
  simp only [hmethod, applyRest]
  rw [applyTarget, hphrase, hpath]
  rfl

/-- **The query with and without a `Host` field.** When the first word is no method, when the target
looks like a whole URI, or when its first question mark begins a query that is not empty, the body is
the same with the field as without it. On any other path with a question mark, the field keeps the
body as it was received, and without the field what follows the question mark, up to a number sign,
is added to it as a query, so that a text gives way to it. -/
theorem create_body_addsHost {word target protocol : Text} (hword : Text.IsWord word)
    (hslash : '/' ∉ word) (htarget : IsPath target) (hprotocol : Text.IsWord protocol)
    {host : Text} {hs hs' : Headers} (hadds : hs.AddsHost host hs')
    (hauthority : (Uri.parse ("http://".toList ++ host)).authority? = some host) (b : Body)
    {config : HttpConfig} (hscheme : Uri.IsWebScheme config.defaultScheme) :
    let bare := create (firstLine word target protocol) hs b config
    let placed := create (firstLine word target protocol) hs' b config
    let received := (start hs b config).body
    (Method.read? word = none ∨ Text.hasPhrase target "://" = true ∨ HasPlainQuery target →
      placed.body = bare.body) ∧
    ((Method.read? word).isSome = true → Text.hasPhrase target "://" = false →
      ∀ path rest, target = path ++ '?' :: rest → '?' ∉ path →
        '#' ∈ path ∨ rest.takeWhile (· != '#') = [] →
        placed.body = received ∧
        bare.body = extendWith
          (.obj (Form.parse config.maxInputVars (rest.takeWhile (· != '#')))) received ∧
        ((∃ t, received = .raw t) → placed.body ≠ bare.body)) := by
  intro bare placed received
  constructor
  · intro hsame
    cases hmethod : Method.read? word with
    | none =>
        have hunread := create_body_of_no_method hword hslash hmethod htarget hprotocol
        exact (hunread hs' b config).trans
          ((start_body_addsHost hadds b config).trans (hunread hs b config).symm)
    | some method =>
        have hknown : (Method.read? word).isSome = true := by rw [hmethod]; rfl
        refine create_body_of_plain hword hknown htarget hprotocol hadds hauthority b hscheme
          (hsame.resolve_left ?_)
        rw [hmethod]
        nofun
  · intro hmethod hphrase path rest heq hmark hloose
    obtain ⟨hplaced, hbare⟩ : placed.body = received ∧ bare.body = extendWith
        (.obj (Form.parse config.maxInputVars (rest.takeWhile (· != '#')))) received :=
      create_bodies_of_loose hword hmethod htarget hprotocol hadds hauthority b hscheme hphrase heq
        hmark hloose
    refine ⟨hplaced, hbare, ?_⟩
    rintro ⟨t, ht⟩ hsame
    rw [hplaced, hbare, ht] at hsame
    cases hsame

/-- A list of notes whose query names one, and a note that is sent to a target with an empty
query. -/
theorem notes_body_addsHost :
    let host : Text := "example.com:8080"
    let hs : Headers := [⟨"Accept", ["*/*"]⟩]
    let hs' := hs.set "Host" host
    (create (firstLine "GET" "/notes?tag=a%20b#top?" "HTTP/1.1") hs' .empty {}).body =
        (create (firstLine "GET" "/notes?tag=a%20b#top?" "HTTP/1.1") hs .empty {}).body ∧
      (create (firstLine "POST" "/notes?" "HTTP/1.1") hs' (.raw "hello") {}).body =
        .raw "hello" := by
  intro host hs hs'
  have hadds : hs.AddsHost host hs' := Headers.addsHost_set rfl host
  have hauthority : (Uri.parse ("http://".toList ++ host)).authority? = some host := by
    decide +kernel
  have hprotocol : Text.IsWord "HTTP/1.1" := by decide
  have hlist : IsPath "/notes?tag=a%20b#top?" := ⟨rfl, Text.unblank_iff.mpr (by decide)⟩
  have hnote : IsPath "/notes?" := ⟨rfl, Text.unblank_iff.mpr (by decide)⟩
  have hplain : HasPlainQuery "/notes?tag=a%20b#top?" := by
    intro path rest heq hmark
    have hsplit := Text.splitFirst_append hmark rest
    rw [← heq] at hsplit
    obtain ⟨rfl, rfl⟩ := Prod.mk.inj (Option.some.inj hsplit)
    decide
  have hscheme : Uri.IsWebScheme ({} : HttpConfig).defaultScheme := .inl rfl
  have hget : Text.IsWord "GET" := by decide
  have hpost : Text.IsWord "POST" := by decide
  obtain ⟨hsame, -⟩ := create_body_addsHost hget (by decide) hlist hprotocol hadds hauthority
    .empty hscheme
  obtain ⟨-, hloose⟩ := create_body_addsHost hpost (by decide) hnote hprotocol hadds hauthority
    (.raw "hello") hscheme
  obtain ⟨hkept, -⟩ := hloose (by decide) (by decide) "/notes" [] rfl (by decide) (.inr rfl)
  exact ⟨hsame (.inr (.inr hplain)), hkept⟩

/-- A note that is sent without a `Host` field to a target with an empty query is replaced by an
empty object, and the fragment of a target is read as a query. -/
theorem notes_body_without_host :
    let host : Text := "example.com"
    (Uri.parse ("http://".toList ++ host)).authority? = some host ∧
      IsPath "/notes?" ∧ IsPath "/notes#top?x=1" ∧
      (create (firstLine "POST" "/notes?" "HTTP/1.1") [] (.raw "hello") {}).body =
        .structured (.obj []) ∧
      (create (firstLine "POST" "/notes?" "HTTP/1.1") [⟨"Host", [host]⟩] (.raw "hello") {}).body =
        .raw "hello" ∧
      (create (firstLine "GET" "/notes#top?x=1" "HTTP/1.1") [] .empty {}).body =
        .structured (.obj [("x", .str "1")]) ∧
      (create (firstLine "GET" "/notes#top?x=1" "HTTP/1.1") [⟨"Host", [host]⟩] .empty {}).body =
        .empty := by
  refine ⟨by decide +kernel, ⟨rfl, Text.unblank_iff.mpr (by decide)⟩,
    ⟨rfl, Text.unblank_iff.mpr (by decide)⟩, ?_, ?_, ?_, ?_⟩ <;> decide +kernel

end Request

end HttpExchange
