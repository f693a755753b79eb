import HttpExchange.Proofs.Headers.Values
import HttpExchange.Proofs.Uri.Resolve
import HttpExchange.Request

/-!
# What a first line leaves alone

A URI that is set changes where a message points to, the parameters of its query
go into the body, and its authority goes into the `Host` field. Nothing else
changes, and so a request differs from the message it is made of in its method,
its protocol and these three parts only.

## Main results

* `Message.setUri_frame`, `Request.applyTarget_frame` — what a URI and a target leave alone.
* `Message.create_frame` — what a message is created with.
* `Request.applyHeadline_cases` — all that a first line can do.
* `Request.create_of_words` — what a first line with all its words does.
* `Request.applyHeadline_rawBody` — a first line does not look at the payload as it was received.
-/

namespace HttpExchange

namespace Message

/-- Header fields that differ in the value of the `Host` field at most, and then that value has no
blanks. -/
def SameButHost (hs hs' : Headers) : Prop :=
  hs' = hs ∨ ∃ value, (∀ c ∈ value, Text.isBlank c = false) ∧ hs' = hs.set "Host" value

theorem SameButHost.get? {hs hs' : Headers} (h : SameButHost hs hs') {name : Text}
    (hname : Headers.keyOf name ≠ Headers.keyOf "Host") : hs'.get? name = hs.get? name := by
  rcases h with rfl | ⟨value, -, rfl⟩
  · rfl
  · exact Headers.get?_set_of_ne (Ne.symm hname) value hs

/-- The same message but for where it points to, its body and its `Host` field. -/
structure SameButPlace (m m' : Message) : Prop where
  method : m'.method = m.method
  protocol : m'.protocol = m.protocol
  rawBody : m'.rawBody = m.rawBody
  decoder : m'.decoder = m.decoder
  headers : SameButHost m.headers m'.headers

theorem SameButPlace.refl (m : Message) : SameButPlace m m := ⟨rfl, rfl, rfl, rfl, .inl rfl⟩

/-- The path and the query of a message are those of some URI that was read. -/
def HasReadTail (m : Message) : Prop :=
  ∃ t, m.uri.path = (Uri.parse t).path ∧ m.uri.query = (Uri.parse t).query

/-! ## Setting a URI -/

theorem adoptHost_eq (m : Message) :
    ∃ uri, m.adoptHost = { m with uri } ∧ uri.path = m.uri.path ∧ uri.query = m.uri.query := by
  unfold adoptHost
  split
  · exact ⟨_, rfl, rfl, rfl⟩
  · exact ⟨m.uri, rfl, rfl, rfl⟩

theorem syncHost_frame {m : Message} {t : Text} (h : m.uri = Uri.parse t) :
    SameButPlace m m.syncHost ∧ m.syncHost.HasReadTail := by
  unfold syncHost
  split
  · next authority hauthority =>
      have hunblank := Uri.unblank_authority_of_parse (h ▸ hauthority)
      exact ⟨⟨rfl, rfl, rfl, rfl, .inr ⟨authority, hunblank, rfl⟩⟩, t, by rw [h], by rw [h]⟩
  · obtain ⟨uri, heq, hpath, hquery⟩ := m.adoptHost_eq
    rw [heq]
    exact ⟨⟨rfl, rfl, rfl, rfl, .inl rfl⟩, t, hpath.trans (by rw [h]), hquery.trans (by rw [h])⟩

theorem setUri_frame (t : Text) (m : Message) :
    SameButPlace m (m.setUri t) ∧ (m.setUri t).HasReadTail := by
  have hparse : ({ m with uri := Uri.parse t } : Message).uri = Uri.parse t := rfl
  obtain ⟨hsync, htail⟩ := syncHost_frame hparse
  have hsame : SameButPlace m ({ m with uri := Uri.parse t } : Message).syncHost :=
    ⟨hsync.method, hsync.protocol, hsync.rawBody, hsync.decoder, hsync.headers⟩
  unfold setUri
  dsimp only
  split
  · exact ⟨⟨hsame.method, hsame.protocol, hsame.rawBody, hsame.decoder, hsame.headers⟩, htail⟩
  · exact ⟨hsame, htail⟩

/-- After a text that is no URI, the `Host` field alone says where the message points to. -/
theorem setUri_of_empty {t : Text} (h : Uri.parse t = .empty) (m : Message) :
    m.setUri t = { m with uri := .empty }.adoptHost := by
  have hsync : ({ m with uri := Uri.parse t } : Message).syncHost =
      ({ m with uri := .empty } : Message).adoptHost := by
    rw [h]
    rfl
  have hquery : ({ m with uri := .empty } : Message).adoptHost.uri.query = none := by
    obtain ⟨uri, heq, -, hquery⟩ := adoptHost_eq { m with uri := .empty }
    rw [heq]
    exact hquery
  unfold setUri
  dsimp only
  rw [hsync, hquery]

theorem create_frame (hs : Headers) (b : Body) (d : Decoder) :
    (create hs b d).method = .get ∧ (create hs b d).headers = hs ∧
      (create hs b d).rawBody = b ∧ (create hs b d).decoder = d := by
  unfold create
  rw [setUri_of_empty rfl]
  obtain ⟨uri, heq, -⟩ := adoptHost_eq
    { (((blank d).setHeaders hs).setBody b).setProtocol defaultProtocol with uri := .empty }
  obtain ⟨uri', heq', -⟩ := adoptHost_eq { blank d with headers := hs }
  rw [heq]
  simp only [setHeaders, heq']
  exact ⟨rfl, rfl, rfl, rfl⟩

theorem create_hasReadTail (hs : Headers) (b : Body) (d : Decoder) :
    (create hs b d).HasReadTail := (setUri_frame [] _).2

/-! ## The body

A URI may only add the parameters of its query. -/

theorem adoptHost_body (m : Message) : m.adoptHost.body = m.body := by
  obtain ⟨uri, heq, -⟩ := m.adoptHost_eq
  rw [heq]

theorem syncHost_body (m : Message) : m.syncHost.body = m.body := by
  unfold syncHost
  split
  · rfl
  · exact m.adoptHost_body

theorem syncHost_query (m : Message) : m.syncHost.uri.query = m.uri.query := by
  unfold syncHost
  split
  · rfl
  · obtain ⟨uri, heq, -, hquery⟩ := m.adoptHost_eq
    rw [heq]
    exact hquery

theorem syncHost_decoder (m : Message) : m.syncHost.decoder = m.decoder := by
  unfold syncHost
  split
  · rfl
  · obtain ⟨uri, heq, -⟩ := m.adoptHost_eq
    rw [heq]

/-- The body with the parameters of a query added to it, if there is a query. -/
def withQuery (maxInputVars : Nat) (query : Option Text) (b : Body) : Body :=
  match query with
  | some query => extendWith (.obj (Form.parse maxInputVars query)) b
  | none => b

theorem setUri_body_eq (t : Text) (m : Message) :
    (m.setUri t).body = withQuery m.decoder.maxInputVars (Uri.parse t).query m.body := by
  have hbody := syncHost_body { m with uri := Uri.parse t }
  have hdecoder := syncHost_decoder { m with uri := Uri.parse t }
  have hquery := syncHost_query { m with uri := Uri.parse t }
  unfold setUri
  dsimp only
  rw [hquery]
  cases (Uri.parse t).query with
  | none => exact hbody
  | some query =>
      dsimp only [mergeQuery, withQuery]
      rw [hdecoder]
      exact congrArg (extendWith _) hbody

theorem setUri_body (t : Text) (m : Message) :
    (m.setUri t).body = m.body ∨
      ∃ params : Members, (m.setUri t).body = extendWith (.obj params) m.body := by
  rw [setUri_body_eq]
  cases (Uri.parse t).query with
  | none => exact .inl rfl
  | some query => exact .inr ⟨_, rfl⟩

/-! ## The payload as it was received

It is kept, and nothing else depends on it. -/

section Received

variable (received : Body)

theorem adoptHost_rawBody (m : Message) :
    { m with rawBody := received }.adoptHost = { m.adoptHost with rawBody := received } := by
  unfold adoptHost
  dsimp only
  split <;> rfl

theorem syncHost_rawBody (m : Message) :
    { m with rawBody := received }.syncHost = { m.syncHost with rawBody := received } := by
  unfold syncHost
  dsimp only
  split
  · rfl
  · exact adoptHost_rawBody received m

theorem setUri_rawBody (t : Text) (m : Message) :
    { m with rawBody := received }.setUri t = { m.setUri t with rawBody := received } := by
  have hsync := syncHost_rawBody received { m with uri := Uri.parse t }
  dsimp only at hsync
  unfold setUri
  dsimp only
  rw [hsync]
  dsimp only
  split <;> rfl

end Received

end Message

namespace Request

open Message

/-! ## Applying a first line -/

theorem applyTarget_frame (scheme target : Text) (m : Message) :
    SameButPlace m (applyTarget scheme target m) ∧
      (m.HasReadTail → (applyTarget scheme target m).HasReadTail) := by
  have huri : ∀ t, SameButPlace m (m.setUri t) ∧ (m.HasReadTail → (m.setUri t).HasReadTail) :=
    fun t => (m.setUri_frame t).imp id fun h _ => h
  unfold applyTarget
  split
  · exact huri target
  · split
    · unfold applyPath
      split
      · exact huri _
      · split
        · exact ⟨⟨rfl, rfl, rfl, rfl, .inl rfl⟩, id⟩
        · exact ⟨.refl m, id⟩
    · exact ⟨.refl m, id⟩

/-- All that the words after the method can do: one may be the protocol, and one the target. -/
theorem applyRest_cases (scheme : Text) (rest : List Text) (m : Message) :
    ∃ protocol, (protocol = m.protocol ∨ ∃ word ∈ rest, protocol = Text.trim word) ∧
      (applyRest scheme rest m = { m with protocol } ∨
        ∃ target, applyRest scheme rest m = applyTarget scheme target { m with protocol }) := by
  match rest with
  | [] => exact ⟨m.protocol, .inl rfl, .inl rfl⟩
  | [target] => exact ⟨m.protocol, .inl rfl, .inr ⟨target, rfl⟩⟩
  | target :: protocol :: _ =>
      exact ⟨Text.trim protocol, .inr ⟨protocol, by simp, rfl⟩, .inr ⟨target, rfl⟩⟩

/-- All that a first line can do: its words may give a method, a protocol and a target. -/
theorem applyHeadline_cases (headline scheme : Text) (m : Message) :
    ∃ method protocol,
      (protocol = m.protocol ∨ ∃ word ∈ Text.words headline, protocol = Text.trim word) ∧
      (applyHeadline headline scheme m = { m with method, protocol } ∨
        ∃ target, applyHeadline headline scheme m =
          applyTarget scheme target { m with method, protocol }) := by
  unfold applyHeadline
  cases Text.words headline with
  | nil => exact ⟨m.method, m.protocol, .inl rfl, .inl rfl⟩
  | cons first rest =>
      dsimp only
      split
      · next method _ =>
          obtain ⟨protocol, hprotocol, happly⟩ := applyRest_cases scheme rest { m with method }
          refine ⟨method, protocol, hprotocol.imp id ?_, happly⟩
          rintro ⟨word, hword, hname⟩
          exact ⟨word, List.mem_cons_of_mem first hword, hname⟩
      · obtain ⟨protocol, hprotocol, happly⟩ := applyRest_cases scheme (first :: rest) m
        exact ⟨m.method, protocol, hprotocol, happly⟩

theorem applyHeadline_sameButHost (headline scheme : Text) (m : Message) :
    SameButHost m.headers (applyHeadline headline scheme m).headers := by
  obtain ⟨method, protocol, -, happly | ⟨target, happly⟩⟩ := applyHeadline_cases headline scheme m
  · rw [happly]
    exact .inl rfl
  · rw [happly]
    exact (applyTarget_frame scheme target _).1.headers

theorem applyTarget_body (scheme target : Text) (m : Message) :
    (applyTarget scheme target m).body = m.body ∨
      ∃ params : Members, (applyTarget scheme target m).body = extendWith (.obj params) m.body := by
  unfold applyTarget
  split
  · exact m.setUri_body target
  · split
    · unfold applyPath
      split
      · exact m.setUri_body _
      · split
        · exact .inr ⟨_, rfl⟩
        · exact .inl rfl
    · exact .inl rfl

theorem applyHeadline_body (headline scheme : Text) (m : Message) :
    (applyHeadline headline scheme m).body = m.body ∨
      ∃ params : Members,
        (applyHeadline headline scheme m).body = extendWith (.obj params) m.body := by
  obtain ⟨method, protocol, -, happly | ⟨target, happly⟩⟩ := applyHeadline_cases headline scheme m
  · exact .inl (by rw [happly])
  · rw [happly]
    exact applyTarget_body scheme target _

/-- A request before its first line is applied. -/
def start (hs : Headers) (b : Body) (config : HttpConfig) : Message :=
  (Message.create hs b config.decoder).setProtocol config.defaultProtocol

theorem create_eq (headline : Text) (hs : Headers) (b : Body) (config : HttpConfig) :
    create headline hs b config =
      applyHeadline headline config.defaultScheme (start hs b config) := rfl

/-- What a request has before its first line is applied. -/
structure Starts (hs : Headers) (b : Body) (config : HttpConfig) (m : Message) : Prop where
  protocol : m.protocol = Text.trim config.defaultProtocol
  headers : m.headers = hs
  rawBody : m.rawBody = b
  decoder : m.decoder = config.decoder
  tail : m.HasReadTail

theorem starts (hs : Headers) (b : Body) (config : HttpConfig) :
    Starts hs b config (start hs b config) := by
  obtain ⟨-, hheaders, hrawBody, hdecoder⟩ := Message.create_frame hs b config.decoder
  exact ⟨rfl, hheaders, hrawBody, hdecoder, create_hasReadTail hs b config.decoder⟩

/-! ## First lines and the payload as it was received -/

section Received

variable (received : Body)

theorem applyTarget_rawBody (scheme target : Text) (m : Message) :
    applyTarget scheme target { m with rawBody := received } =
      { applyTarget scheme target m with rawBody := received } := by
  unfold applyTarget
  split
  · exact setUri_rawBody received target m
  · split
    · unfold applyPath
      dsimp only
      split
      · exact setUri_rawBody received _ m
      · split <;> rfl
    · rfl

theorem applyRest_rawBody (scheme : Text) (rest : List Text) (m : Message) :
    applyRest scheme rest { m with rawBody := received } =
      { applyRest scheme rest m with rawBody := received } := by
  unfold applyRest
  split
  · rfl
  · exact applyTarget_rawBody received _ _ m
  · exact applyTarget_rawBody received _ _ (m.setProtocol _)

theorem applyHeadline_rawBody (headline scheme : Text) (m : Message) :
    applyHeadline headline scheme { m with rawBody := received } =
      { applyHeadline headline scheme m with rawBody := received } := by
  unfold applyHeadline
  split
  · rfl
  · split
    · next method _ => exact applyRest_rawBody received _ _ { m with method }
    · exact applyRest_rawBody received _ _ m

end Received

theorem start_body (hs : Headers) (t : Text) (config : HttpConfig) :
    (start hs (.raw t) config).body = config.decoder.decode t hs := by
  obtain ⟨uri, heq, -⟩ := adoptHost_eq { blank config.decoder with headers := hs }
  have hcreate : (Message.create hs (.raw t) config.decoder).body =
      (((blank config.decoder).setHeaders hs).setBody (.raw t)).body := by
    rw [Message.create, setUri_of_empty rfl, adoptHost_body]
    rfl
  change (Message.create hs (.raw t) config.decoder).body = _
  rw [hcreate, setHeaders, heq]
  rfl

/-- Payloads that are read as the same body make the same request. -/
theorem create_of_decode {hs : Headers} {config : HttpConfig} {t t' : Text}
    (h : config.decoder.decode t hs = config.decoder.decode t' hs) (headline : Text) :
    create headline hs (.raw t) config =
      { create headline hs (.raw t') config with rawBody := .raw t } := by
  obtain ⟨uri, heq, -⟩ := adoptHost_eq { blank config.decoder with headers := hs }
  have hbody : ((blank config.decoder).setHeaders hs).setBody (.raw t) =
      { ((blank config.decoder).setHeaders hs).setBody (.raw t') with rawBody := .raw t } := by
    rw [setHeaders, heq]
    simp only [setBody]
    exact congrArg (fun body => Message.mk .get _ uri hs none body (.raw t) config.decoder) h
  have hstart : start hs (.raw t) config =
      { start hs (.raw t') config with rawBody := .raw t } := by
    rw [start, Message.create, hbody]
    exact congrArg (setProtocol config.defaultProtocol) (setUri_rawBody (.raw t) []
      ((((blank config.decoder).setHeaders hs).setBody (.raw t')).setProtocol defaultProtocol))
  rw [create_eq, hstart, applyHeadline_rawBody]
  rfl

/-- A request whose first line names a method, a target and a protocol. -/
theorem create_of_words {headline word target protocol : Text} {method : Method}
    (hwords : Text.words headline = [word, target, protocol])
    (hmethod : Method.read? word = some method) (hs : Headers) (b : Body) (config : HttpConfig) :
    create headline hs b config =
      applyTarget config.defaultScheme target
        (({ start hs b config with method } : Message).setProtocol protocol) := by
  rw [create_eq, applyHeadline, hwords]
  simp only [hmethod, applyRest]

end Request

end HttpExchange
