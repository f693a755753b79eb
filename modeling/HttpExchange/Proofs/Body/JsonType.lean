import HttpExchange.Proofs.Body.RoundTrip
import HttpExchange.Proofs.Text.Case

/-!
# The media types of JSON

Payloads of several media types are read as JSON, and a value is written for all of
them in the same way, but for a string: one of the types is a text type, and among
the text types a string is written without quotes. So a string that is written for
that type is not read again, unless it is the numeral of a number that is not held,
which is read as a string anyway.

## Main definitions

* `ReadsJson` — the media types of payloads that are read as JSON.
* `IsScript` — the one of them that is a text type.

## Main results

* `readsJson_iff` — the names of these types.
* `encode_eq_encode_iff` — which values are written the same for two of them.
* `decode_encode_iff` — which values are read again.
* `json_types_interchangeable_iff` — both, for every payload that is accepted.
-/

namespace HttpExchange

namespace Json

/-- What is read of a text is that text as a string when it is the numeral of a number that is not
held, and never otherwise. -/
theorem readJson?_eq_str_iff {t : Text} :
    Decoder.readJson? t = some (.str t) ↔ IsNumeral t ∧ ¬ IsHeld t := by
  constructor
  · intro h
    rcases Decoder.readJson?_cases t with ⟨source, hread, -, hvalue⟩ | ⟨-, hnone⟩
    · have hportable := Option.some.inj (hvalue.symm.trans h)
      rcases portable_eq_str_iff.mp hportable with rfl | ⟨rfl, hnot⟩
      · exact absurd (length_lt_of_read?_str hread) (Nat.lt_irrefl _)
      · cases isReadable_of_read? hread with
        | num _ hnumeral =>
            refine ⟨hnumeral, fun hheld => ?_⟩
            rw [(isPortable_iff hnumeral).mpr hheld] at hnot
            cases hnot
    · rw [hnone] at h
      cases h
  · rintro ⟨hnumeral, hnot⟩
    have hread : read? t = some (.num t) := read?_write (.num maxDepth hnumeral)
    have hportable : isPortable t = false :=
      Bool.eq_false_iff.mpr (mt (isPortable_iff hnumeral).mp hnot)
    rw [Decoder.readJson?, hread]
    exact congrArg some (portable_eq_str_iff.mpr (.inr ⟨rfl, hportable⟩))

/-- No string is its own text. -/
theorem write_str_ne (t : Text) : (Json.str t).write ≠ t := by
  intro heq
  have hread := read?_write (.str maxDepth t)
  rw [heq] at hread
  exact Nat.lt_irrefl _ (length_lt_of_read?_str hread)

end Json

/-! ## Media types -/

/-- The media types of payloads that are read as JSON. -/
def ReadsJson (contentType : Text) : Prop :=
  Codec.ofContentType? (normalizeContentType contentType) = some .json

instance (contentType : Text) : Decidable (ReadsJson contentType) :=
  inferInstanceAs (Decidable (_ = _))

/-- The media type of a payload that is read as JSON and is a text. -/
def IsScript (contentType : Text) : Prop :=
  normalizeContentType contentType = "text/javascript".toList

instance (contentType : Text) : Decidable (IsScript contentType) :=
  inferInstanceAs (Decidable (_ = _))

/-- The names of the media types that are read as JSON. -/
def jsonNames : List Text := ["application/json", "application/javascript", "text/javascript"]

theorem Codec.ofContentType?_eq_json_iff {contentType : Text} :
    Codec.ofContentType? contentType = some .json ↔ contentType ∈ jsonNames := by
  constructor
  · intro h
    unfold ofContentType? at h
    split at h
    · cases h
    · split at h
      · cases h
      · split at h
        · next hname =>
            simp only [Bool.or_eq_true, decide_eq_true_eq] at hname
            rcases hname with (rfl | rfl) | rfl <;> decide
        · split at h <;> cases h
  · revert contentType
    decide

/-- **The media types that are read as JSON**: those with the ending `+json` and three others, in
any letter case. -/
theorem readsJson_iff {contentType : Text} :
    ReadsJson contentType ↔
      Text.endsWith (Text.lower (Text.trim contentType)) "+json" = true ∨
      Text.lower (Text.trim contentType) ∈ jsonNames := by
  have hxml : ∀ name ∈ jsonNames, Text.endsWith name "+xml" = false := by decide
  unfold ReadsJson normalizeContentType
  dsimp only
  by_cases hjson : Text.endsWith (Text.lower (Text.trim contentType)) "+json" = true
  · rw [if_pos hjson]
    exact iff_of_true (by decide) (.inl hjson)
  · rw [if_neg hjson, or_iff_right hjson]
    split
    · next hends =>
        refine iff_of_false (by decide) fun hmem => ?_
        rw [hxml _ hmem] at hends
        cases hends
    · exact Codec.ofContentType?_eq_json_iff

/-- What is written for a media type that is read as JSON. -/
theorem ReadsJson.encode_eq {contentType : Text} (h : ReadsJson contentType) (v : Json) :
    (Body.structured v).encode (some contentType) = match v with
      | .str t => if IsScript contentType then t else (Json.str t).write
      | v => v.write := by
  have hscript : Text.startsWith (normalizeContentType contentType) "text/" = true ↔
      IsScript contentType := by
    have hnames : ∀ name ∈ jsonNames,
        Text.startsWith name "text/" = true ↔ name = "text/javascript".toList := by decide
    exact hnames _ (Codec.ofContentType?_eq_json_iff.mp h)
  have hcodec : Codec.ofContentType? (normalizeContentType contentType) = some .json := h
  change Body.encodeValue (normalizeContentType contentType) v = _
  rw [Body.encodeValue, hcodec]
  cases v with
  | str t => exact if_congr hscript rfl rfl
  | _ => rfl

/-- **The values that are written the same** for two media types that are read as JSON: all but the
strings, if one of the types is a text type and the other is none. -/
theorem encode_eq_encode_iff {first second : Text} (hfirst : ReadsJson first)
    (hsecond : ReadsJson second) {v : Json} :
    (Body.structured v).encode (some first) = (Body.structured v).encode (some second) ↔
      ∀ t, v = .str t → (IsScript first ↔ IsScript second) := by
  rw [hfirst.encode_eq, hsecond.encode_eq]
  cases v with
  | str t =>
      have hquoted := Json.write_str_ne t
      dsimp only
      by_cases hf : IsScript first <;> by_cases hs : IsScript second <;>
        simp [hf, hs, hquoted, hquoted.symm]
  | _ => simp

/-- **The values that are read again**: all but the strings that are written without quotes and are
not the numerals of numbers that are not held. -/
theorem decode_encode_iff {raw contentType : Text} {v : Json}
    (hread : Decoder.readJson? raw = some v) (h : ReadsJson contentType) :
    Decoder.readJson? ((Body.structured v).encode (some contentType)) = some v ↔
      ∀ t, v = .str t → IsScript contentType → Json.IsNumeral t ∧ ¬ Json.IsHeld t := by
  have hwritten := Decoder.readJson?_write hread
  rw [h.encode_eq]
  cases v with
  | str t =>
      by_cases hscript : IsScript contentType
      · simp [hscript, Json.readJson?_eq_str_iff]
      · simp [hscript, hwritten]
  | _ => exact iff_of_true hwritten nofun

/-- What is read of a payload, under headers that name a media type that is read as JSON. -/
theorem ReadsJson.decode_eq_structured_iff {contentType : Text} (h : ReadsJson contentType)
    {hs : Headers} (htype : Decoder.contentTypeOf hs = normalizeContentType contentType)
    (d : Decoder) {raw : Text} {v : Json} :
    d.decode raw hs = .structured v ↔ Decoder.readJson? raw = some v := by
  rw [Decoder.decode_of_json (by rw [htype]; exact h) d raw]
  cases Decoder.readJson? raw with
  | none => exact iff_of_false nofun nofun
  | some w => rw [Body.structured.injEq, Option.some.injEq]

/-- **Which values the media types of JSON are interchangeable for.** Two of the types write a value
the same unless it is a string and one of the two is the text type. What was read of a payload under
any of the types is read again, under any of them, from what any of them writes for it, unless it is
a string and the text type writes it. Such a string is read again only if it is the numeral of a
number that is not held. -/
theorem json_types_interchangeable_iff {first second third : Text} (hfirst : ReadsJson first)
    (hsecond : ReadsJson second) (hthird : ReadsJson third) :
    (∀ v : Json,
      (Body.structured v).encode (some first) = (Body.structured v).encode (some second) ↔
        ∀ t, v = .str t → (IsScript first ↔ IsScript second)) ∧
    ∀ (d d' : Decoder) (raw : Text) (hs hs' : Headers) (v : Json),
      Decoder.contentTypeOf hs = normalizeContentType first →
      Decoder.contentTypeOf hs' = normalizeContentType third →
      d.decode raw hs = .structured v →
      (d'.decode ((Body.structured v).encode (some second)) hs' = .structured v ↔
        ∀ t, v = .str t → IsScript second → Json.IsNumeral t ∧ ¬ Json.IsHeld t) := by
  refine ⟨fun v => encode_eq_encode_iff hfirst hsecond, ?_⟩
  intro d d' raw hs hs' v htype htype' hdecode
  have hread := (hfirst.decode_eq_structured_iff htype d).mp hdecode
  rw [hthird.decode_eq_structured_iff htype' d']
  exact decode_encode_iff hread hsecond

/-- A list is written for a vendor's type as it is for the text type. It is read again, and so is a
number that is not held. -/
theorem list_interchangeable :
    let vendor : Text := "Application/vnd.list+JSON"
    let script : Text := "text/javascript"
    let hs : Headers := [⟨"Content-Type", ["Application/vnd.list+JSON; charset=utf-8"]⟩]
    let hs' : Headers := [⟨"Content-Type", ["text/javascript"]⟩]
    let list : Json := .arr [.str "[1]", .str "12345678901234567890"]
    let numeral : Text := "12345678901234567890"
    ReadsJson vendor ∧ ReadsJson script ∧
      (Body.structured list).encode (some vendor) = (Body.structured list).encode (some script) ∧
      Decoder.decode ⟨1000⟩ ((Body.structured list).encode (some script)) hs = .structured list ∧
      Decoder.decode ⟨1000⟩ numeral hs = .structured (.str numeral) ∧
      Decoder.decode ⟨1000⟩ ((Body.structured (.str numeral)).encode (some script)) hs' =
        .structured (.str numeral) := by
  intro vendor script hs hs' list numeral
  have hvendor : ReadsJson vendor := by decide
  have hscript : ReadsJson script := by decide
  have htype : Decoder.contentTypeOf hs = normalizeContentType vendor := by decide +kernel
  have htype' : Decoder.contentTypeOf hs' = normalizeContentType script := by decide +kernel
  have hlist : Decoder.decode ⟨1000⟩ "[\"[1]\", 12345678901234567890]" hs = .structured list := by
    decide +kernel
  have hnumeral : Decoder.decode ⟨1000⟩ numeral hs = .structured (.str numeral) := by decide +kernel
  obtain ⟨hwritten, hagain⟩ := json_types_interchangeable_iff hvendor hscript hvendor
  obtain ⟨-, hagain'⟩ := json_types_interchangeable_iff hvendor hscript hscript
  refine ⟨hvendor, hscript, (hwritten list).mpr nofun, ?_, hnumeral, ?_⟩
  · exact (hagain ⟨1000⟩ ⟨1000⟩ _ hs hs list htype htype hlist).mpr nofun
  · refine (hagain' ⟨1000⟩ ⟨1000⟩ _ hs hs' _ htype htype' hnumeral).mpr fun t ht _ => ?_
    obtain rfl := Json.str.inj ht
    exact Json.readJson?_eq_str_iff.mp (by decide +kernel)

/-- A string with the text of a list in it. The text type writes it without quotes, unlike the other
types, and what is read of that is the list. -/
theorem quoted_list_not_interchangeable :
    let script : Text := "text/javascript"
    let hs : Headers := [⟨"Content-Type", ["text/javascript"]⟩]
    let body : Body := .structured (.str "[1]")
    ReadsJson script ∧ ReadsJson "application/json" ∧
      body.encode (some script) ≠ body.encode (some "application/json".toList) ∧
      Decoder.decode ⟨1000⟩ "\"[1]\"" hs = body ∧
      Decoder.decode ⟨1000⟩ (body.encode (some script)) hs = .structured (.arr [.num "1"]) := by
  decide +kernel

end HttpExchange
