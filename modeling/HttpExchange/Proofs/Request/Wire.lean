import HttpExchange.Proofs.Numeral.Integer
import HttpExchange.Proofs.Request.Frame
import HttpExchange.Proofs.Request.Head

/-!
# Requests that are written and read again

A request that was read can be written, and what is written reads as a request
again. It has the method, the protocol and the payload of the first one, and its
fields but for two: `Host` says where the request points to, and the length is
that of the payload, whatever it was said to be before.

## Main results

* `writable_of_read` — a request that was read can be written.
* `readParts_wire` — the parts of what was written.
* `read_wire` — what was written reads as a request again.
-/

namespace HttpExchange

namespace Headers

/-- Whether a field says where a message points to. -/
def isHost (name : Text) : Bool := Text.eqIgnoreCase name "host"

/-- Whether a field says how long the payload is. -/
def isLength (name : Text) : Bool := Text.eqIgnoreCase name "content-length"

/-- The fields that say neither. -/
def carried (hs : Headers) : List (Text × Text) :=
  hs.pairs.filter fun field => !(isHost field.1 || isLength field.1)

/-- All lengths that some fields announce. -/
def lengths (hs : Headers) : List Text :=
  (hs.pairs.filter fun field => isLength field.1).map Prod.snd

theorem isHost_iff {name : Text} : isHost name = true ↔ Text.lower name = keyOf "Host" := by
  have hkey : keyOf "Host" = Text.lower "host" := by decide
  rw [isHost, Text.eqIgnoreCase, beq_iff_eq, hkey]

theorem isLength_iff {name : Text} :
    isLength name = true ↔ Text.lower name = keyOf "Content-Length" := by
  have hkey : keyOf "Content-Length" = Text.lower "content-length" := by decide
  rw [isLength, Text.eqIgnoreCase, beq_iff_eq, hkey]

theorem isLength_of_isHost {name : Text} (h : isHost name = true) : isLength name = false := by
  have hother : keyOf "Host" ≠ keyOf "Content-Length" := by decide
  refine Bool.eq_false_iff.mpr fun hlength => hother ?_
  rw [← isHost_iff.mp h, isLength_iff.mp hlength]

/-- What a `Host` field is set to changes neither the other fields nor the lengths. -/
theorem carried_set_host (hs : Headers) (value : Text) :
    (hs.set "Host" value).carried = hs.carried ∧ (hs.set "Host" value).lengths = hs.lengths := by
  rw [set_eq_edit, carried, carried, lengths, lengths]
  rw [pairs_filter_edit (p := fun name => !(isHost name || isLength name)),
    pairs_filter_edit (p := isLength)]
  · exact ⟨rfl, rfl⟩
  · exact fun other hother => isLength_of_isHost (isHost_iff.mpr hother)
  · intro other hother
    simp [isHost_iff.mpr hother]

end Headers

namespace Message

open Headers

/-! ## The fields that are written -/

/-- The fields that are written, with their values together. -/
def writtenHeaders (m : Message) : Headers :=
  (m.headers.filter fun h => !isLength h.name) ++
    if m.payload.isEmpty then []
    else [⟨"Content-Length", [Numeral.ofNat (Text.utf8Size m.payload)]⟩]

theorem writtenFields_eq (m : Message) :
    m.writtenFields = ((pairs m.headers).filter fun field => !isLength field.1) ++
      if m.payload.isEmpty then []
      else [("Content-Length".toList, Numeral.ofNat (Text.utf8Size m.payload))] := rfl

theorem pairs_writtenHeaders (m : Message) : pairs m.writtenHeaders = m.writtenFields := by
  rw [writtenHeaders, writtenFields_eq, pairs_append, pairs_filter fun name => !isLength name]
  split <;> rfl

theorem isFieldValue_length (n : Nat) : IsFieldValue (Numeral.ofNat n) :=
  .of_unblank fun _ hc => Text.isBlank_of_isDigit (Numeral.isDigit_of_mem_ofNat hc)

/-- No length is among the fields that are kept. -/
theorem length_not_mem_kept (hs : Headers) :
    keyOf "Content-Length" ∉ keys (hs.filter fun h => !isLength h.name) := by
  intro hmem
  obtain ⟨h, hh, hkey⟩ := List.mem_map.mp hmem
  have hother : isLength h.name = false := by simpa using (List.mem_filter.mp hh).2
  rw [isLength_iff.mpr hkey] at hother
  cases hother

theorem wellFormed_writtenHeaders {m : Message} (h : m.headers.WellFormed) :
    m.writtenHeaders.WellFormed := by
  have hkept := h.filter fun h => !isLength h.name
  unfold writtenHeaders
  split
  · rwa [List.append_nil]
  · have hname : IsFieldName (Text.trim "Content-Length") :=
      ⟨by decide, by decide, by decide, by decide⟩
    have hlast := append_of_not_mem (length_not_mem_kept m.headers)
      (Numeral.ofNat (Text.utf8Size m.payload)) []
    rw [List.append_nil] at hlast
    exact hlast ▸ hkept.append hname (isFieldValue_length _)

theorem valuesOf_writtenHeaders {m : Message} (h : m.payload.isEmpty = false) :
    m.writtenHeaders.valuesOf "Content-Length" = [Numeral.ofNat (Text.utf8Size m.payload)] := by
  rw [writtenHeaders, h, valuesOf_of_not_mem (length_not_mem_kept m.headers)]
  rfl

/-- The other fields are those of the message. -/
theorem get?_writtenHeaders (m : Message) {name : Text}
    (hname : keyOf name ≠ keyOf "Content-Length") :
    m.writtenHeaders.get? name = m.headers.get? name := by
  have hkept : (m.headers.filter fun h => !isLength h.name).find? (·.key == keyOf name) =
      m.headers.find? (·.key == keyOf name) := by
    rw [List.find?_filter]
    congr 1
    funext h
    by_cases hkey : h.key = keyOf name
    · have hother : isLength h.name = false :=
        Bool.eq_false_iff.mpr fun hlength => hname (hkey.symm.trans (isLength_iff.mp hlength))
      simp [hother, hkey]
    · simp [hkey]
  have hlength : List.find? (·.key == keyOf name) (if m.payload.isEmpty then ([] : Headers)
      else [⟨"Content-Length", [Numeral.ofNat (Text.utf8Size m.payload)]⟩]) = none := by
    split
    · rfl
    · have hkey : keyOf "Content-Length" = Text.lower "Content-Length" := by decide
      rw [hkey] at hname
      exact List.find?_cons_of_neg (by rw [beq_iff_eq]; exact Ne.symm hname)
  rw [Headers.get?, valuesOf, field?, writtenHeaders, List.find?_append, hkept, hlength,
    Option.or_none]
  rfl

/-- The fields that are written are those of the message, -/
theorem carried_writtenHeaders (m : Message) : m.writtenHeaders.carried = m.headers.carried := by
  have hlength : ¬ (!(isHost "Content-Length" || isLength "Content-Length")) = true := by decide
  rw [carried, pairs_writtenHeaders, writtenFields_eq, List.filter_append, List.filter_filter,
    carried]
  have hkept : ∀ field : Text × Text, (!(isHost field.1 || isLength field.1) && !isLength field.1) =
      !(isHost field.1 || isLength field.1) := by
    intro field
    cases isHost field.1 <;> cases isLength field.1 <;> rfl
  simp only [hkept]
  split
  · exact List.append_nil _
  · have hdropped : [("Content-Length".toList, Numeral.ofNat (Text.utf8Size m.payload))].filter
        (fun field => !(isHost field.1 || isLength field.1)) = [] :=
      List.filter_cons_of_neg hlength
    rw [hdropped, List.append_nil]

/-- and one length at most. -/
theorem lengths_writtenHeaders (m : Message) :
    m.writtenHeaders.lengths =
      if m.payload.isEmpty then [] else [Numeral.ofNat (Text.utf8Size m.payload)] := by
  have hlength : isLength "Content-Length" = true := by decide
  have hkept : ((pairs m.headers).filter fun field => !isLength field.1).filter
      (fun field => isLength field.1) = [] := by
    rw [List.filter_filter]
    exact List.filter_eq_nil_iff.mpr fun field _ => by simp
  rw [lengths, pairs_writtenHeaders, writtenFields_eq, List.filter_append, hkept, List.nil_append]
  split
  · rfl
  · exact congrArg (List.map Prod.snd) (List.filter_cons_of_pos hlength)

theorem SameButHost.carried {hs hs' : Headers} (h : SameButHost hs hs') :
    hs'.carried = hs.carried ∧ hs'.lengths = hs.lengths := by
  rcases h with rfl | ⟨value, -, rfl⟩
  · exact ⟨rfl, rfl⟩
  · exact carried_set_host hs value

theorem SameButHost.wellFormed {hs hs' : Headers} (h : SameButHost hs hs')
    (hwell : hs.WellFormed) : hs'.WellFormed := by
  rcases h with rfl | ⟨value, hvalue, rfl⟩
  · exact hwell
  · exact hwell.set ⟨by decide, by decide, by decide, by decide⟩ (.of_unblank hvalue)

end Message

namespace Request

open Message

/-- A request that can be written. -/
structure Writable (config : HttpConfig) (m : Message) : Prop where
  headers : m.headers.WellFormed
  protocol : ∀ c ∈ m.protocol, Text.isBlank c = false
  /-- Only where messages have no protocol by default does a request have none. -/
  named : m.protocol = [] → config.defaultProtocol = []
  tail : m.HasReadTail

theorem Writable.applyTarget {config : HttpConfig} {m : Message} (h : Writable config m)
    (scheme target : Text) : Writable config (applyTarget scheme target m) := by
  obtain ⟨hframe, htail⟩ := applyTarget_frame scheme target m
  exact
    { headers := hframe.headers.wellFormed h.headers
      protocol := hframe.protocol.symm ▸ h.protocol
      named := hframe.protocol.symm ▸ h.named
      tail := htail h.tail }

/-- The fields of a text that was read stand on lines without line feeds. -/
theorem wellFormed_of_readParts {limit : Nat} {t : Text} {parts : Parts}
    (h : readParts limit t = .ok parts) : parts.headers.WellFormed := by
  unfold readParts at h
  dsimp only at h
  split at h
  · cases h
  · obtain ⟨hs, hfields, hrest⟩ := bind_eq_ok_iff.mp h
    split at hrest
    · cases hrest
    · obtain rfl := Except.ok.inj hrest
      refine wellFormed_of_readFields (fun line hline => ?_) hfields
      obtain ⟨source, hsource, rfl⟩ := List.mem_map.mp (List.mem_of_mem_tail hline)
      exact not_mem_dropLineBreak hsource

/-- **A request that was read can be written.** -/
theorem writable_of_read {t : Text} {config : HttpConfig} {m : Message}
    (hprotocol : ∀ c ∈ config.defaultProtocol, Text.isBlank c = false)
    (h : read t config = .ok m) : Writable config m := by
  obtain ⟨parts, hparts, hcreate⟩ := bind_eq_ok_iff.mp h
  obtain rfl := Except.ok.inj hcreate
  have hstarts := starts parts.headers (.raw parts.body) config
  obtain ⟨method, protocol, hname, happly⟩ := applyHeadline_cases parts.headline
    config.defaultScheme (start parts.headers (.raw parts.body) config)
  -- the protocol is the one by default, or a word of the first line, which is not empty
  have hword : (∀ c ∈ protocol, Text.isBlank c = false) ∧
      (protocol = [] → config.defaultProtocol = []) := by
    rcases hname with hdefault | ⟨word, hword, rfl⟩
    · obtain rfl : protocol = config.defaultProtocol := by
        rw [hdefault, hstarts.protocol, Text.trim_of_unblank hprotocol]
      exact ⟨hprotocol, id⟩
    · have hisWord := Text.isWord_of_mem_words hword
      rw [Text.trim_of_unblank hisWord.unblank]
      exact ⟨hisWord.unblank, fun hnil => absurd hnil hisWord.nonempty⟩
  have hstart : Writable config
      { start parts.headers (.raw parts.body) config with method, protocol } :=
    { headers := hstarts.headers.symm ▸ wellFormed_of_readParts hparts
      protocol := hword.1
      named := hword.2
      tail := hstarts.tail }
  rw [create_eq]
  rcases happly with happly | ⟨target, happly⟩
  · rw [happly]
    exact hstart
  · rw [happly]
    exact hstart.applyTarget config.defaultScheme target

/-! ## Writing -/

theorem isWord_name (method : Method) : Text.IsWord method.name := by
  cases method <;> decide

theorem read?_name (method : Method) : Method.read? method.name = some method := by
  cases method <;> decide

theorem isWord_target {m : Message} (h : m.HasReadTail) : Text.IsWord (target m) := by
  obtain ⟨t, hpath, hquery⟩ := h
  have hlead : Text.IsWord (m.uri.path.getD ['/']) := by
    cases hread : (Uri.parse t).path with
    | none =>
        rw [hpath, hread]
        show Text.IsWord ['/']
        decide
    | some path =>
        rw [hpath, hread]
        exact Uri.isWord_path_of_parse hread
  have htail : ∀ c ∈ Uri.around "?" m.uri.query [], Text.isBlank c = false := by
    intro c hc
    rw [hquery] at hc
    cases hread : (Uri.parse t).query with
    | none =>
        rw [hread] at hc
        cases hc
    | some query =>
        rw [hread, Uri.around, List.append_nil] at hc
        rcases List.mem_append.mp hc with hc | hc
        · rw [List.mem_singleton.mp hc]
          decide
        · exact Uri.unblank_query_of_parse hread c hc
  refine ⟨fun hnil => hlead.nonempty (List.append_eq_nil_iff.mp hnil).1, fun c hc => ?_⟩
  rcases List.mem_append.mp hc with hc | hc
  · exact hlead.unblank c hc
  · exact htail c hc

theorem headline_eq (m : Message) :
    headline m = firstLine m.method.name (target m) m.protocol := by
  rw [headline, firstLine, List.append_assoc]
  rfl

theorem isHeadLine_headline {config : HttpConfig} {m : Message} (h : Writable config m) :
    IsHeadLine (headline m) where
  first := by
    have hname := isWord_name m.method
    obtain ⟨c, rest, hcons⟩ := List.exists_cons_of_ne_nil hname.nonempty
    refine ⟨c, ?_, hname.unblank c (hcons ▸ List.mem_cons_self)⟩
    rw [headline, hcons]
    rfl
  lineFeed := by
    have hplain : ∀ {t : Text}, (∀ c ∈ t, Text.isBlank c = false) → '\n' ∉ t :=
      fun hunblank hmem => nomatch hunblank '\n' hmem
    rw [headline, List.mem_append, List.mem_append, List.mem_cons, List.mem_cons]
    rintro ((hc | hc | hc) | hc | hc)
    · exact hplain (isWord_name m.method).unblank hc
    · cases hc
    · exact hplain (isWord_target h.tail).unblank hc
    · cases hc
    · exact hplain h.protocol hc

/-- The length that is announced is that of the payload, which is not cut then. -/
theorem cutBody_payload (m : Message) : cutBody m.writtenHeaders m.payload = m.payload := by
  have hwhole : ∀ length, (m.writtenHeaders.get? "Content-Length").bind
      (fun v => Numeral.readNat64? (Text.trim v)) = some length →
        ¬ length < Text.utf8Size m.payload := by
    intro length hlength
    cases hempty : m.payload.isEmpty with
    | true =>
        rw [List.isEmpty_iff.mp hempty]
        exact Nat.not_lt_zero length
    | false =>
        rw [Headers.get?, valuesOf_writtenHeaders hempty] at hlength
        change Numeral.readNat64? (Text.trim (Numeral.ofNat _)) = some length at hlength
        rw [(isFieldValue_length _).trimmed] at hlength
        rw [Numeral.eq_of_readNat?_ofNat hlength]
        exact Nat.lt_irrefl _
  unfold cutBody
  split
  · next length hlength => exact if_neg (hwhole length hlength)
  · rfl

/-! ### Lines under a first line -/

theorem render_eq (first : Text) (m : Message) :
    m.render first =
      (first :: m.writtenFields.map fieldLine).flatMap (· ++ lineBreak) ++ lineBreak ++
        m.payload := by
  have hfields : m.writtenFields.flatMap writeField =
      (m.writtenFields.map fieldLine).flatMap (· ++ lineBreak) := by
    rw [List.flatMap_map]
    rfl
  rw [render, hfields, List.flatMap_cons]
  rfl

section WellFormed

variable {m : Message} (h : m.headers.WellFormed)

include h

theorem isField_of_mem_writtenFields {field : Text × Text} (hfield : field ∈ m.writtenFields) :
    IsFieldName field.1 ∧ IsFieldValue field.2 :=
  (wellFormed_writtenHeaders h).isField (pairs_writtenHeaders m ▸ hfield)

theorem isHeadLine_of_mem_lines {first : Text} (hfirst : IsHeadLine first) {line : Text}
    (hline : line ∈ first :: m.writtenFields.map fieldLine) : IsHeadLine line := by
  rcases List.mem_cons.mp hline with rfl | hline
  · exact hfirst
  · obtain ⟨field, hfield, rfl⟩ := List.mem_map.mp hline
    obtain ⟨hname, hvalue⟩ := isField_of_mem_writtenFields h hfield
    exact isHeadLine_fieldLine hname hvalue.lineFeed

/-- The first blank line of a message that was written is the one before its payload. -/
theorem splitHead_render {first : Text} (hfirst : IsHeadLine first) :
    splitHead (m.render first) =
      (Text.joinWith lineBreak (first :: m.writtenFields.map fieldLine), m.payload) := by
  rw [render_eq]
  exact splitHead_block (List.cons_ne_nil _ _)
    (fun _ hline => isHeadLine_of_mem_lines h hfirst hline) m.payload

/-- The lines of the head are the first line and those of the fields. -/
theorem lines_render {first : Text} (hfirst : IsHeadLine first) :
    (Text.lines (Text.joinWith lineBreak (first :: m.writtenFields.map fieldLine))).map
        dropLineBreak = first :: m.writtenFields.map fieldLine :=
  lines_block fun _ hline => isHeadLine_of_mem_lines h hfirst hline

theorem readFields_writtenFields :
    readFields (m.writtenFields.map fieldLine) = .ok m.writtenHeaders := by
  rw [readFields_fieldLines fun _ hfield => isField_of_mem_writtenFields h hfield,
    ← pairs_writtenHeaders, Headers.ofPairs_pairs (wellFormed_writtenHeaders h)]

end WellFormed

/-! ### Requests -/

section Writable

variable {config : HttpConfig} {m : Message} (h : Writable config m)

include h

/-- What is written does not begin with a blank. -/
theorem exists_head_wire : ∃ c ∈ (wire m).head?, Text.isBlank c = false := by
  obtain ⟨c, hc, hblank⟩ := (isHeadLine_headline h).first
  obtain ⟨rest, hcons⟩ := List.head?_eq_some_iff.mp hc
  refine ⟨c, ?_, hblank⟩
  rw [wire, render, hcons]
  rfl

/-- No line break is dropped before what is written. -/
theorem dropWhile_wire : (wire m).dropWhile (fun c => c == '\r' || c == '\n') = wire m := by
  obtain ⟨c, hc, hblank⟩ := exists_head_wire h
  refine Text.dropWhile_eq_self fun d hd => ?_
  obtain rfl : d = c := Option.some.inj (hd.symm.trans hc)
  rw [Bool.or_eq_false_iff, beq_eq_false_iff_ne, beq_eq_false_iff_ne]
  constructor
  · rintro rfl
    cases hblank
  · rintro rfl
    cases hblank

/-- **The parts of what was written.** -/
theorem readParts_wire (hsize : Text.utf8Size m.payload ≤ config.maxBodySize) :
    readParts config.maxBodySize (wire m) =
      .ok ⟨Text.trim (headline m), m.writtenHeaders, m.payload⟩ := by
  have hfirst := isHeadLine_headline h
  have hnonempty : (Text.trim (wire m)).isEmpty = false :=
    List.isEmpty_eq_false_iff.mpr (Text.trim_ne_nil (exists_head_wire h))
  have hhead : splitHead (wire m) = _ := splitHead_render h.headers hfirst
  unfold readParts
  dsimp only
  rw [dropWhile_wire h, hnonempty, hhead]
  dsimp only
  rw [lines_render h.headers hfirst, List.tail_cons, readFields_writtenFields h.headers]
  change (if config.maxBodySize < Text.utf8Size (cutBody m.writtenHeaders m.payload)
    then _ else _) = _
  rw [cutBody_payload, if_neg (Nat.not_lt.mpr hsize)]
  rfl

/-- A request of a first line that was written. -/
theorem create_headline (hs : Headers) (b : Body) :
    ∃ m', create (Text.trim (headline m)) hs b config =
        applyTarget config.defaultScheme (target m) m' ∧
      m'.method = m.method ∧ m'.protocol = m.protocol ∧ m'.headers = hs ∧ m'.rawBody = b := by
  have hstarts := starts hs b config
  have htarget := isWord_target h.tail
  have hname := isWord_name m.method
  have htrim := Text.words_trim (headline m)
  rw [headline_eq] at htrim ⊢
  by_cases hprotocol : m.protocol = []
  · -- the line ends with a blank, and the protocol is the one by default, which is none
    have hspace : Text.isBlank ' ' = true := by decide
    have hwords : Text.words (firstLine m.method.name (target m) m.protocol) =
        [m.method.name, target m] := by
      rw [firstLine, hprotocol, Text.words_cons hname hspace, Text.words_cons htarget hspace]
      rfl
    have hdefault : (start hs b config).protocol = m.protocol := by
      rw [hstarts.protocol, h.named hprotocol, hprotocol]
      rfl
    rw [create_eq, applyHeadline, htrim, hwords]
    simp only [read?_name, applyRest]
    exact ⟨{ start hs b config with method := m.method }, rfl, rfl, hdefault, hstarts.headers,
      hstarts.rawBody⟩
  · have hwords := htrim.trans (words_firstLine hname htarget ⟨hprotocol, h.protocol⟩)
    rw [create_of_words hwords (read?_name m.method)]
    exact ⟨({ start hs b config with method := m.method } : Message).setProtocol m.protocol, rfl,
      rfl, Text.trim_of_unblank h.protocol, hstarts.headers, hstarts.rawBody⟩

end Writable

/-- **What was written reads as a request again.** -/
theorem read_wire {t : Text} {config : HttpConfig} {m : Message}
    (hprotocol : ∀ c ∈ config.defaultProtocol, Text.isBlank c = false)
    (hread : read t config = .ok m) (hsize : Text.utf8Size m.payload ≤ config.maxBodySize) :
    ∃ m', read (wire m) config = .ok m' ∧ m'.method = m.method ∧ m'.protocol = m.protocol ∧
      m'.headers.carried = m.headers.carried ∧
      m'.headers.lengths =
        (if m.payload.isEmpty then [] else [Numeral.ofNat (Text.utf8Size m.payload)]) ∧
      m'.rawBody = .raw m.payload := by
  have hwritable := writable_of_read hprotocol hread
  obtain ⟨start, hcreate, hmethod, hprotocol', hheaders, hrawBody⟩ :=
    create_headline hwritable m.writtenHeaders (.raw m.payload)
  have hframe := (applyTarget_frame config.defaultScheme (target m) start).1
  obtain ⟨hcarried, hlengths⟩ := hframe.headers.carried
  refine ⟨_, ?_, hframe.method.trans hmethod, hframe.protocol.trans hprotocol', ?_, ?_,
    hframe.rawBody.trans hrawBody⟩
  · rw [read, readParts_wire hwritable hsize]
    exact congrArg Except.ok hcreate
  · rw [hcarried, hheaders, carried_writtenHeaders]
  · rw [hlengths, hheaders, lengths_writtenHeaders]

/-- A note whose length was announced twice. The parameter of the query is in its payload when it is
written, and the length is that of this payload. -/
theorem note_read_wire :
    let fields : Text := "content-length: 3\r\nX-Note: a:b\r\nCONTENT-LENGTH: 9\nx-note: \r\n\r\n"
    let t : Text := "\nPOST /notes?tag=x HTTP/1.1\r\nHost: example.com\r\n".toList ++ fields ++
      "row\n\nX: 1".toList
    let payload : Text := "\x7b\"tag\":\"x\"\x7d"
    ∃ m m', read t {} = .ok m ∧ m.headers.lengths = ["3".toList, "9".toList] ∧
      m.payload = payload ∧ read (wire m) {} = .ok m' ∧ m'.method = .post ∧
      m'.headers.carried = [("X-Note".toList, "a:b".toList), ("X-Note".toList, [])] ∧
      m'.headers.lengths = ["11".toList] ∧ m'.rawBody = .raw payload := by
  intro fields t payload
  let hs : Headers := [⟨"Host", ["example.com"]⟩, ⟨"content-length", ["3", "9"]⟩,
    ⟨"X-Note", ["a:b", ""]⟩]
  let m := create "POST /notes?tag=x HTTP/1.1" hs (.raw "row") {}
  have hprotocol : ∀ c ∈ ({} : HttpConfig).defaultProtocol, Text.isBlank c = false :=
    Text.unblank_iff.mpr (by decide)
  have hread : read t {} = .ok m := by decide +kernel
  have hpayload : m.payload = payload := by decide +kernel
  have hsize : Text.utf8Size m.payload ≤ ({} : HttpConfig).maxBodySize := by
    rw [hpayload]
    decide
  obtain ⟨m', hread', hmethod, -, hcarried, hlengths, hraw⟩ := read_wire hprotocol hread hsize
  refine ⟨m, m', hread, by decide +kernel, hpayload, hread', hmethod.trans (by decide +kernel),
    hcarried.trans (by decide +kernel), hlengths.trans (by decide +kernel), ?_⟩
  rw [hraw, hpayload]

end Request

end HttpExchange
