import HttpExchange.Headers.MediaType
import HttpExchange.Proofs.Assoc
import HttpExchange.Proofs.Headers.Pairs
import HttpExchange.Proofs.Text.Case

/-!
# The parts of a media type

Every edit of a media type reads the whole of it, changes a part and writes the
whole again. The parts that an edit does not name come through that because a
media type that was read is clean: no part of it has a semicolon or blanks around
it, its essence is no parameter, and the names of its parameters are in lower case
and have no equals sign. A clean media type is read from its text as it was, and
an edit keeps it clean.

## Main definitions

* `MediaType.IsClean` — what reading gives and writing asks for.
* `Headers.mediaType` — the media type of some fields, empty when they name none.

## Main results

* `MediaType.read_text` — a clean media type is read from its text.
* `Headers.mediaType_updateMediaType` — the media type after an edit.
* `Headers.contentType_charset_apart` — media type and character set do not touch
  each other.
-/

namespace HttpExchange

namespace MediaType

/-! ## Pieces between semicolons -/

/-- A text that is found again between semicolons. -/
structure IsPiece (t : Text) : Prop where
  trimmed : Text.trim t = t
  semicolon : ';' ∉ t

theorem isPiece_trim {t : Text} (h : ';' ∉ t) : IsPiece (Text.trim t) :=
  ⟨Text.trim_trim t, fun hmem => h (Text.trim_subset hmem)⟩

theorem IsPiece.lower {t : Text} (h : IsPiece t) : IsPiece (Text.lower t) where
  trimmed := by rw [Text.trim_lower, h.trimmed]
  semicolon := by
    rw [Text.mem_lower_iff (by decide)]
    exact h.semicolon

theorem trim_cons_of_blank {c : Char} (h : Text.isBlank c = true) (t : Text) :
    Text.trim (c :: t) = Text.trim t := by
  unfold Text.trim Text.trimStart
  rw [List.dropWhile_cons_of_pos h]

/-- A blank behind a semicolon is trimmed off. -/
theorem map_trim_splitOn_cons (t : Text) :
    (Text.splitOn ';' (' ' :: t)).map Text.trim = (Text.splitOn ';' t).map Text.trim := by
  obtain ⟨first, pieces, hpieces⟩ :=
    List.exists_cons_of_ne_nil (Text.splitWhere_ne_nil (· == ';') t)
  have hsplit : Text.splitOn ';' (' ' :: t) = (' ' :: first) :: pieces := by
    show (Text.splitWhere (· == ';') t).modifyHead (' ' :: ·) = _
    rw [hpieces]
    rfl
  rw [hsplit, Text.splitOn, hpieces, List.map_cons, List.map_cons, trim_cons_of_blank (by decide)]

/-- Pieces that are put together are found again. -/
theorem map_trim_splitOn_joinWith {ts : List Text} (hne : ts ≠ []) (h : ∀ t ∈ ts, IsPiece t) :
    (Text.splitOn ';' (Text.joinWith "; " ts)).map Text.trim = ts := by
  induction ts with
  | nil => exact absurd rfl hne
  | cons t ts ih =>
      obtain ⟨ht, hts⟩ := List.forall_mem_cons.mp h
      cases ts with
      | nil =>
          show (Text.splitOn ';' t).map Text.trim = [t]
          rw [Text.splitOn_of_not_mem ht.semicolon, List.map_singleton, ht.trimmed]
      | cons u us =>
          have hshape : Text.joinWith "; " (t :: u :: us) =
              t ++ ';' :: ' ' :: Text.joinWith "; " (u :: us) := by
            rw [Text.joinWith, List.append_assoc]
            rfl
          rw [hshape, Text.splitOn_append ht.semicolon, List.map_cons, ht.trimmed,
            map_trim_splitOn_cons, ih (List.cons_ne_nil u us) hts]

/-! ## Clean media types -/

/-- A parameter that is found again: its name in lower case and without an equals sign. -/
structure IsParameter (p : Text × Text) : Prop where
  name : IsPiece p.1
  lower : Text.lower p.1 = p.1
  equals : '=' ∉ p.1
  value : IsPiece p.2

/-- A media type that is found again in its text. -/
structure IsClean (m : MediaType) : Prop where
  essence : ∀ e ∈ m.essence, e ≠ [] ∧ IsPiece e ∧ '=' ∉ e
  params : ∀ p ∈ m.params, IsParameter p

/-- The text of a parameter. -/
def parameterText (p : Text × Text) : Text := p.1 ++ '=' :: p.2

theorem parameter?_parameterText {p : Text × Text} (h : IsParameter p) :
    parameter? (parameterText p) = some p := by
  rw [parameter?, parameterText, Text.splitFirst_append h.equals, Option.map_some]
  simp only [h.name.trimmed, h.lower, h.value.trimmed]

theorem IsParameter.isPiece {p : Text × Text} (h : IsParameter p) : IsPiece (parameterText p) where
  trimmed := by
    -- the equals sign is not blank, so each side is trimmed at its outer end only
    rw [parameterText, Text.trim_append_cons (by decide),
      Text.trimStart_eq_self_of_trim h.name.trimmed, Text.trimEnd_eq_self_of_trim h.value.trimmed]
  semicolon := by
    have hequals : ';' ≠ '=' := by decide
    rw [parameterText, List.mem_append, List.mem_cons, not_or, not_or]
    exact ⟨h.name.semicolon, hequals, h.value.semicolon⟩

theorem parameter?_eq_none {t : Text} (h : '=' ∉ t) : parameter? t = none := by
  rw [parameter?, Text.splitFirst_eq_none_iff.mpr h]
  rfl

theorem essence?_of_not_mem {t : Text} (hne : t ≠ []) (h : '=' ∉ t) : essence? t = some t := by
  have hempty : t.isEmpty = false := List.isEmpty_eq_false_iff.mpr hne
  rw [essence?, parameter?_eq_none h, hempty]
  rfl

theorem filterMap_parameter? {params : Assoc Text} (h : ∀ p ∈ params, IsParameter p) :
    (params.map parameterText).filterMap parameter? = params := by
  induction params with
  | nil => rfl
  | cons p params ih =>
      obtain ⟨hp, hparams⟩ := List.forall_mem_cons.mp h
      rw [List.map_cons, List.filterMap_cons, parameter?_parameterText hp]
      exact congrArg (p :: ·) (ih hparams)

/-- **A clean media type is read from its text.** -/
theorem read_text {m : MediaType} (h : m.IsClean) : read m.text = m := by
  obtain ⟨essence, params⟩ := m
  have hparams : ∀ t ∈ params.map parameterText, IsPiece t := by
    intro t ht
    obtain ⟨p, hp, rfl⟩ := List.mem_map.mp ht
    exact (h.params p hp).isPiece
  have hread := filterMap_parameter? h.params
  cases essence with
  | some e =>
      obtain ⟨hne, hpiece, hequals⟩ := h.essence e rfl
      have hpieces := map_trim_splitOn_joinWith (List.cons_ne_nil e _)
        (List.forall_mem_cons.mpr ⟨hpiece, hparams⟩)
      have htext : text ⟨some e, params⟩ =
          Text.joinWith "; " (e :: params.map parameterText) := rfl
      simp only [read, htext, hpieces, List.head?_cons, Option.bind_some,
        essence?_of_not_mem hne hequals, List.filterMap_cons, parameter?_eq_none hequals, hread]
  | none =>
      cases params with
      | nil => decide
      | cons p params =>
          have hpieces := map_trim_splitOn_joinWith (List.cons_ne_nil _ _) hparams
          have htext : text ⟨none, p :: params⟩ =
              Text.joinWith "; " (parameterText p :: params.map parameterText) := rfl
          have hessence : essence? (parameterText p) = none := by
            rw [essence?, parameter?_parameterText (h.params p List.mem_cons_self)]
            exact if_pos (Bool.or_true _)
          rw [List.map_cons] at hread
          simp only [read, htext, hpieces, List.head?_cons, Option.bind_some, hessence, hread]

/-- What is read is clean. -/
theorem isClean_read (t : Text) : (read t).IsClean := by
  have hpiece : ∀ s ∈ (Text.splitOn ';' t).map Text.trim, IsPiece s := by
    intro s hs
    obtain ⟨piece, hmem, rfl⟩ := List.mem_map.mp hs
    refine isPiece_trim fun hsemicolon => ?_
    have hfalse := Text.forall_of_mem_splitWhere hmem _ hsemicolon
    cases hfalse
  refine ⟨fun e he => ?_, fun p hp => ?_⟩
  · obtain ⟨s, hs, he⟩ := Option.bind_eq_some_iff.mp he
    have hs := hpiece s (List.mem_of_mem_head? hs)
    unfold essence? at he
    split at he
    · cases he
    · next hnot =>
        obtain rfl := Option.some.inj he
        rw [Bool.or_eq_true, not_or, Bool.not_eq_true, Bool.not_eq_true,
          List.isEmpty_eq_false_iff, parameter?, Option.isSome_map] at hnot
        obtain ⟨hne, hequals⟩ := hnot
        rw [Option.isSome_eq_false_iff, Option.isNone_iff_eq_none,
          Text.splitFirst_eq_none_iff] at hequals
        exact ⟨hne, hs, hequals⟩
  · obtain ⟨s, hs, hp⟩ := List.mem_filterMap.mp hp
    have hs := hpiece s hs
    obtain ⟨⟨name, value⟩, hsplit, rfl⟩ := Option.map_eq_some_iff.mp hp
    have hshape := Text.eq_of_splitFirst hsplit
    have hsemicolon := hs.semicolon
    rw [hshape, List.mem_append, List.mem_cons, not_or, not_or] at hsemicolon
    have hname : IsPiece (Text.trim name) := isPiece_trim hsemicolon.1
    refine ⟨hname.lower, Text.lower_lower _, ?_, isPiece_trim hsemicolon.2.2⟩
    rw [Text.mem_lower_iff (by decide)]
    exact fun hmem => Text.not_mem_of_splitFirst hsplit (Text.trim_subset hmem)

theorem isClean_empty : empty.IsClean := ⟨nofun, nofun⟩

theorem IsClean.update {m new : MediaType} (h : m.IsClean) (hnew : new.IsClean) :
    (m.update new).IsClean := by
  refine ⟨fun e he => ?_, fun p hp => ?_⟩
  · unfold MediaType.update at he
    cases hessence : new.essence with
    | none =>
        rw [hessence] at he
        exact h.essence e he
    | some e' =>
        rw [hessence] at he
        exact hnew.essence e (hessence ▸ he)
  · rcases Assoc.mem_setAll hp with hold | hp
    · exact h.params p hold
    · exact hnew.params p hp

/-- A media type that is given without parameters. -/
structure IsBare (t : Text) : Prop where
  nonblank : Text.trim t ≠ []
  semicolon : ';' ∉ t
  equals : '=' ∉ t

theorem IsBare.read {t : Text} (h : IsBare t) : read t = ⟨some (Text.trim t), []⟩ := by
  have hequals : '=' ∉ Text.trim t := fun hmem => h.equals (Text.trim_subset hmem)
  simp only [MediaType.read, Text.splitOn_of_not_mem h.semicolon, List.map_singleton,
    List.head?_cons, Option.bind_some, essence?_of_not_mem h.nonblank hequals,
    List.filterMap_cons, parameter?_eq_none hequals, List.filterMap_nil]

/-- The change of a character set alone. -/
def ofCharset (charset : Text) : MediaType := ⟨none, [("charset", Text.trim charset)]⟩

theorem isClean_ofCharset {charset : Text} (h : ';' ∉ charset) : (ofCharset charset).IsClean := by
  have hname : IsPiece "charset" := ⟨by decide, by decide⟩
  have hlower : Text.lower "charset" = "charset".toList := by decide
  have hequals : '=' ∉ "charset".toList := by decide
  refine ⟨nofun, fun p hp => ?_⟩
  obtain rfl := List.mem_singleton.mp hp
  exact ⟨hname, hlower, hequals, isPiece_trim h⟩

theorem update_ofCharset (m : MediaType) (charset : Text) :
    m.update (ofCharset charset) =
      ⟨m.essence, Assoc.set "charset" (Text.trim charset) m.params⟩ := rfl

theorem IsBare.update {t : Text} (h : IsBare t) (m : MediaType) :
    m.update (MediaType.read t) = ⟨some (Text.trim t), m.params⟩ := by
  rw [h.read]
  rfl

end MediaType

namespace Headers

open MediaType (ofCharset)

/-! ## The media type of some fields -/

/-- The media type of some fields; nothing is known of it when no field names it. -/
def mediaType (hs : Headers) : MediaType := (mediaType? hs).getD .empty

/-- The fields besides that of a name. -/
def besides (name : Text) (hs : Headers) : Headers := hs.filter fun h => h.key != keyOf name

theorem isClean_mediaType (hs : Headers) : hs.mediaType.IsClean := by
  unfold mediaType mediaType?
  cases get? "Content-Type" hs with
  | none => exact MediaType.isClean_empty
  | some t => exact MediaType.isClean_read t

theorem contentType?_eq (hs : Headers) :
    hs.contentType? = hs.mediaType.essence.map Text.lower := by
  unfold contentType? mediaType
  cases mediaType? hs <;> rfl

theorem charset?_eq (hs : Headers) :
    hs.charset? = (Assoc.get? "charset" hs.mediaType.params).map Text.unquote := by
  unfold charset? mediaType
  cases mediaType? hs <;> rfl

theorem updateMediaType_eq (new : MediaType) (hs : Headers) :
    updateMediaType new hs = set "Content-Type" (hs.mediaType.update new).text hs := rfl

/-- **The media type after an edit** is the edited one. -/
theorem mediaType_updateMediaType {new : MediaType} (hnew : new.IsClean) (hs : Headers) :
    (updateMediaType new hs).mediaType = hs.mediaType.update new := by
  have hclean := (isClean_mediaType hs).update hnew
  rw [updateMediaType_eq, mediaType, mediaType?, get?_set_self rfl, Option.map_some,
    Option.getD_some, MediaType.read_text hclean]

/-- Two edits are written once, at the same place. -/
theorem updateMediaType_updateMediaType {first : MediaType} (hfirst : first.IsClean)
    (second : MediaType) (hs : Headers) :
    updateMediaType second (updateMediaType first hs) =
      set "Content-Type" ((hs.mediaType.update first).update second).text hs := by
  rw [updateMediaType_eq second, mediaType_updateMediaType hfirst, updateMediaType_eq, set_set]

theorem besides_updateMediaType (new : MediaType) (hs : Headers) :
    besides "Content-Type" (updateMediaType new hs) = besides "Content-Type" hs := by
  rw [updateMediaType_eq, set_eq_edit]
  refine filter_edit (fun h hkey => ?_) _ hs
  rw [hkey]
  exact bne_self_eq_false _

/-- **Media type and character set do not touch each other.** A change of the character set keeps
the type and every other parameter, a change of the type keeps all parameters, and it does not
matter which of the two comes first. All other fields stay as they are. -/
theorem contentType_charset_apart (hs : Headers) {charset type : Text}
    (hcharset : ';' ∉ charset) (htype : MediaType.IsBare type) :
    ((hs.setCharset charset).contentType? = hs.contentType? ∧
      Assoc.erase "charset" (hs.setCharset charset).mediaType.params =
        Assoc.erase "charset" hs.mediaType.params ∧
      (hs.setCharset charset).charset? = some (Text.unquote (Text.trim charset))) ∧
    ((hs.setContentType type).contentType? = some (Text.lower (Text.trim type)) ∧
      (hs.setContentType type).mediaType.params = hs.mediaType.params ∧
      (hs.setContentType type).charset? = hs.charset?) ∧
    (hs.setCharset charset).setContentType type = (hs.setContentType type).setCharset charset ∧
    besides "Content-Type" (hs.setCharset charset) = besides "Content-Type" hs ∧
    besides "Content-Type" (hs.setContentType type) = besides "Content-Type" hs := by
  have hclean := MediaType.isClean_ofCharset hcharset
  have hset : (hs.setCharset charset).mediaType =
      ⟨hs.mediaType.essence, Assoc.set "charset" (Text.trim charset) hs.mediaType.params⟩ :=
    mediaType_updateMediaType hclean hs
  have hread : (hs.setContentType type).mediaType = ⟨some (Text.trim type), hs.mediaType.params⟩ :=
    (mediaType_updateMediaType (MediaType.isClean_read type) hs).trans (htype.update _)
  refine ⟨⟨?_, ?_, ?_⟩, ⟨?_, ?_, ?_⟩, ?_, besides_updateMediaType _ hs,
    besides_updateMediaType _ hs⟩
  · rw [contentType?_eq, contentType?_eq, hset]
  · rw [hset, Assoc.erase_set]
  · rw [charset?_eq, hset, Assoc.get?_set_self, Option.map_some]
  · rw [contentType?_eq, hread, Option.map_some]
  · rw [hread]
  · rw [charset?_eq, charset?_eq, hread]
  · have hcharsetFirst := updateMediaType_updateMediaType hclean (MediaType.read type) hs
    have htypeFirst :=
      updateMediaType_updateMediaType (MediaType.isClean_read type) (ofCharset charset) hs
    rw [MediaType.update_ofCharset, htype.update] at hcharsetFirst htypeFirst
    exact hcharsetFirst.trans htypeFirst.symm

/-- A type that is missing, a character set that is named twice, a parameter whose value has an
equals sign, and a piece that is none of these. -/
theorem bounded_contentType_charset_apart :
    let hs : Headers := [⟨"Accept", ["*/*"]⟩,
      ⟨"content-type", ["; Charset=\"a\"; boundary=x=y; flag;; CHARSET=b", "text/plain"]⟩]
    let charset : Text := " \"UTF-8\" "
    let type : Text := " Text/HTML "
    ';' ∉ charset ∧ MediaType.IsBare type ∧
      (hs.setCharset charset).contentType? = none ∧
      (hs.setCharset charset).charset? = some "UTF-8".toList ∧
      (hs.setContentType type).contentType? = some "text/html".toList ∧
      (hs.setContentType type).charset? = some "a".toList ∧
      (hs.setContentType type).mediaType.params =
        ([("charset", "\"a\""), ("boundary", "x=y"), ("charset", "b")] : Assoc Text) ∧
      (hs.setCharset charset).setContentType type =
        (hs.setContentType type).setCharset charset := by
  intro hs charset type
  have hcharset : ';' ∉ charset := by decide
  have htype : MediaType.IsBare type := ⟨by decide, by decide, by decide⟩
  obtain ⟨⟨hkept, -, hset⟩, ⟨hread, hparams, hcharsetKept⟩, heither, -⟩ :=
    contentType_charset_apart hs hcharset htype
  exact ⟨hcharset, htype, hkept.trans (by decide), hset.trans (by decide),
    hread.trans (by decide), hcharsetKept.trans (by decide), hparams.trans (by decide), heither⟩

end Headers

end HttpExchange
