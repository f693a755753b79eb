import HttpExchange.Action.Announcement
import HttpExchange.Proofs.Adapter
import HttpExchange.Proofs.Assoc
import HttpExchange.Proofs.Except

/-!
# The parameters that are announced

Each parameter that an action announces is looked at by itself: it is met by what
the message carries under its name, or it fails in one of two ways. All of them
together give one value for each name, or fail as the first of them that does.

A value that has been brought into a kind is left alone when that is done again.
So what was announced can be announced once more: a body that consists of the
values gives them back, if the defaults are of the kinds too.

## Main definitions

* `Message.Carries` — a message has a value under a name.
* `ParamKind.Accepts`, `ParamKind.Holds` — the values that can be brought into a kind, and
  those that are of the kind.
* `ParamSpec.IsMet`, `ParamSpec.Gives`, `ParamSpec.FailsAs` — what becomes of one parameter.

## Main results

* `ParamKind.isSome_coerce?_iff`, `ParamKind.holds_of_coerce?`, `ParamKind.coerce?_of_holds` —
  which values are brought into a kind, that they are of it then, and that such values stay.
* `announce_sound_complete_stable` — what becomes of all parameters.
-/

namespace HttpExchange

/-! ## What a message carries -/

/-- The body is an object that has a value other than null under a name. -/
def Message.Carries (m : Message) (name : Text) (v : Json) : Prop :=
  ∃ members, m.body = .structured (.obj members) ∧ Assoc.get? name members = some v ∧ v ≠ .null

namespace Message

variable {m m' : Message} {name : Text} {v : Json}

theorem param?_eq_some_iff : m.param? name = some v ↔ m.Carries name v := by
  have hnull : (!v.isNull) = true ↔ v ≠ .null := by
    cases v <;> simp [Json.isNull]
  rw [param?, Option.filter_eq_some_iff, Option.bind_eq_some_iff, hnull]
  constructor
  · rintro ⟨⟨members, hbody, hget⟩, hv⟩
    refine ⟨members, ?_, hget, hv⟩
    unfold Body.asObject? at hbody
    split at hbody
    · next heq => rw [heq, Option.some.inj hbody]
    · cases hbody
  · rintro ⟨members, hbody, hget, hv⟩
    exact ⟨⟨members, by rw [hbody]; rfl, hget⟩, hv⟩

theorem param?_eq_none_iff : m.param? name = none ↔ ∀ v, ¬ m.Carries name v := by
  rw [Option.eq_none_iff_forall_ne_some]
  exact forall_congr' fun v => not_congr param?_eq_some_iff

theorem param?_congr (h : ∀ v, m'.Carries name v ↔ m.Carries name v) :
    m'.param? name = m.param? name := by
  apply Option.ext
  intro v
  rw [param?_eq_some_iff, param?_eq_some_iff, h]

/-- Under a name of an object a message carries what stands there, unless it is null. -/
theorem carries_iff_of_get? {members : Members} (hbody : m.body = .structured (.obj members))
    (hget : Assoc.get? name members = some v) {u : Json} :
    m.Carries name u ↔ u = v ∧ u ≠ .null := by
  constructor
  · rintro ⟨members', hbody', hget', hu⟩
    obtain rfl : members = members' := by
      rw [hbody] at hbody'
      exact Json.obj.inj (Body.structured.inj hbody')
    exact ⟨Option.some.inj (hget'.symm.trans hget), hu⟩
  · rintro ⟨rfl, hu⟩
    exact ⟨members, hbody, hget, hu⟩

end Message

/-! ## Kinds -/

namespace ParamKind

/-- A text denotes an integer if it spells one of 64 bits or a finite number. -/
def DenotesInteger (t : Text) : Prop :=
  (Numeral.readInt64? t).isSome = true ∨ Json.isFinite t = true

/-- The values that can be brought into a kind. -/
def Accepts : ParamKind → Json → Prop
  | .string, .bool _ | .string, .num _ | .string, .str _ => True
  | .integer, .num t => DenotesInteger t
  | .integer, .str t => DenotesInteger (Text.trim t)
  | .boolean, .bool _ => True
  | .boolean, .num t => Json.isFinite t = true
  | .boolean, .str t => ∃ word ∈ trueWords ++ falseWords, word.toList = Text.lower (Text.trim t)
  | .array, .bool _ | .array, .num _ | .array, .str _ | .array, .arr _ | .array, .obj _ => True
  | _, _ => False

/-- The values of a kind. -/
inductive Holds : ParamKind → Json → Prop where
  | string (t : Text) : Holds .string (.str t)
  | integer {i : Int} : Numeral.minInt64 ≤ i → i ≤ Numeral.maxInt64 → Holds .integer (.ofInt i)
  | boolean (b : Bool) : Holds .boolean (.bool b)
  | array {v : Json} : v.isCollection = true → Holds .array v

variable {kind : ParamKind} {v w : Json}

theorem Holds.ne_null (h : kind.Holds v) : v ≠ .null := by
  rintro rfl
  cases h with
  | array h => cases h

theorem denotesInteger_iff {t : Text} :
    (Json.integerOfNumeral? t).isSome = true ↔ DenotesInteger t := by
  rw [Json.isSome_integerOfNumeral?, Bool.or_eq_true, DenotesInteger]

theorem isSome_booleanOfText?_iff {t : Text} :
    (booleanOfText? t).isSome = true ↔
      ∃ word ∈ trueWords ++ falseWords, word.toList = Text.lower (Text.trim t) := by
  have hany : ∀ words : List String, words.any (·.toList == Text.lower (Text.trim t)) = true ↔
      ∃ word ∈ words, word.toList = Text.lower (Text.trim t) := by
    intro words
    simp only [List.any_eq_true, beq_iff_eq]
  rw [← hany, List.any_append, Bool.or_eq_true, booleanOfText?]
  split
  · next h => exact iff_of_true rfl (.inl h)
  · next h =>
      rw [or_iff_right h]
      split
      · next h' => exact iff_of_true rfl h'
      · next h' => exact iff_of_false Bool.false_ne_true h'

/-- **The values that are brought into a kind** are those it accepts. -/
theorem isSome_coerce?_iff : (kind.coerce? v).isSome = true ↔ kind.Accepts v := by
  cases kind with
  | string => cases v <;> simp [coerce?, Json.toStringParam?, Accepts]
  | integer =>
      rw [coerce?, Option.isSome_map]
      cases v with
      | num t => exact denotesInteger_iff
      | str t => exact denotesInteger_iff
      | null | bool b | arr items | obj members => simp [Json.toInteger?, Accepts]
  | boolean =>
      rw [coerce?, Option.isSome_map]
      cases v with
      | num t => rw [Json.toBoolean?, Json.isSome_nonzeroOfNumeral?, Accepts]
      | str t => exact isSome_booleanOfText?_iff
      | null | bool b | arr items | obj members => simp [Json.toBoolean?, Accepts]
  | array => cases v <;> simp [coerce?, Json.toArrayParam?, Accepts]

theorem isCollection_arrayOfText (t : Text) : (arrayOfText t).isCollection = true := by
  rw [arrayOfText]
  split
  · rfl
  · split
    · split
      · assumption
      · rfl
    · rfl

/-- **What was brought into a kind is of the kind.** -/
theorem holds_of_coerce? (h : kind.coerce? v = some w) : kind.Holds w := by
  cases kind with
  | string =>
      cases v with
      | str t => exact Option.some.inj h ▸ .string _
      | num t => exact Option.some.inj h ▸ .string _
      | bool b => exact Option.some.inj h ▸ .string _
      | null | arr items | obj members => cases h
  | integer =>
      obtain ⟨i, hi, rfl⟩ := Option.map_eq_some_iff.mp h
      obtain ⟨hmin, hmax⟩ := Json.bounds_of_toInteger? hi
      exact .integer hmin hmax
  | boolean =>
      obtain ⟨b, -, rfl⟩ := Option.map_eq_some_iff.mp h
      exact .boolean b
  | array =>
      cases v with
      | str t => exact Option.some.inj h ▸ .array (isCollection_arrayOfText t)
      | num t => exact Option.some.inj h ▸ .array rfl
      | bool b => exact Option.some.inj h ▸ .array rfl
      | arr items => exact Option.some.inj h ▸ .array rfl
      | obj members => exact Option.some.inj h ▸ .array rfl
      | null => cases h

/-- **A value of a kind stays** when it is brought into it. -/
theorem coerce?_of_holds (h : kind.Holds v) : kind.coerce? v = some v := by
  cases h with
  | string t => rfl
  | integer hmin hmax => rw [coerce?, Json.toInteger?_ofInt hmin hmax, Option.map_some]
  | boolean b => rfl
  | array h =>
      cases v with
      | arr items => rfl
      | obj members => rfl
      | null | bool b | num t | str t => cases h

end ParamKind

/-! ## One parameter -/

namespace ParamSpec

/-- A message has what a parameter needs: a value if one is required, and none that cannot be
brought into the kind. -/
structure IsMet (m : Message) (p : ParamSpec) : Prop where
  present : p.required = true → ∃ v, m.Carries p.name v
  accepted : ∀ v, m.Carries p.name v → p.kind.Accepts v

/-- The value of a parameter: what the message carries, brought into the kind, or the default if
the message carries nothing. -/
inductive Gives (m : Message) (p : ParamSpec) : Json → Prop where
  | carried {u v : Json} : m.Carries p.name u → p.kind.coerce? u = some v → p.kind.Holds v →
      Gives m p v
  | absent : p.required = false → (∀ u, ¬ m.Carries p.name u) → Gives m p p.default

/-- The failure of a parameter: nothing is carried where a value is required, or what is carried
cannot be brought into the kind. -/
inductive FailsAs (m : Message) (p : ParamSpec) : Failure → Prop where
  | missing : p.required = true → (∀ u, ¬ m.Carries p.name u) → FailsAs m p (.missingParam p.name)
  | invalid {u : Json} : m.Carries p.name u → ¬ p.kind.Accepts u →
      FailsAs m p (.invalidParam p.name)

variable {m m' : Message} {p : ParamSpec} {v : Json}

theorem extract_of_gives (h : p.Gives m v) : p.extract m = .ok v := by
  cases h with
  | carried hu hv _ => simp only [extract, Message.param?_eq_some_iff.mpr hu, hv]
  | absent hrequired habsent =>
      simp only [extract, Message.param?_eq_none_iff.mpr habsent, hrequired, Bool.false_eq_true,
        if_false]

theorem extract_of_failsAs {e : Failure} (h : p.FailsAs m e) : p.extract m = .error e := by
  cases h with
  | missing hrequired habsent =>
      simp only [extract, Message.param?_eq_none_iff.mpr habsent, hrequired, if_true]
  | invalid hu hv =>
      rw [← ParamKind.isSome_coerce?_iff, Option.not_isSome_iff_eq_none] at hv
      simp only [extract, Message.param?_eq_some_iff.mpr hu, hv]

/-- A parameter that is met gives a value, and one that is not fails. -/
theorem gives_or_failsAs (m : Message) (p : ParamSpec) :
    p.IsMet m ∧ (∃ v, p.Gives m v) ∨ ¬ p.IsMet m ∧ ∃ e, p.FailsAs m e := by
  by_cases hcarries : ∃ u, m.Carries p.name u
  · obtain ⟨u, hu⟩ := hcarries
    by_cases haccepts : p.kind.Accepts u
    · obtain ⟨v, hv⟩ := Option.isSome_iff_exists.mp (ParamKind.isSome_coerce?_iff.mpr haccepts)
      refine .inl ⟨⟨fun _ => ⟨u, hu⟩, fun u' hu' => ?_⟩,
        v, .carried hu hv (ParamKind.holds_of_coerce? hv)⟩
      have hsame := (Message.param?_eq_some_iff.mpr hu).symm.trans
        (Message.param?_eq_some_iff.mpr hu')
      exact Option.some.inj hsame ▸ haccepts
    · exact .inr ⟨fun hmet => haccepts (hmet.accepted u hu), _, .invalid hu haccepts⟩
  · have habsent := not_exists.mp hcarries
    cases hrequired : p.required with
    | true =>
        exact .inr ⟨fun hmet => hcarries (hmet.present hrequired), _, .missing hrequired habsent⟩
    | false =>
        refine .inl ⟨⟨fun h => ?_, fun u hu => absurd hu (habsent u)⟩, _,
          .absent hrequired habsent⟩
        rw [hrequired] at h
        cases h

theorem extract_eq_ok_iff : p.extract m = .ok v ↔ p.Gives m v := by
  refine ⟨fun h => ?_, extract_of_gives⟩
  rcases gives_or_failsAs m p with ⟨-, w, hw⟩ | ⟨-, e, he⟩
  · rw [extract_of_gives hw] at h
    exact Except.ok.inj h ▸ hw
  · rw [extract_of_failsAs he] at h
    cases h

theorem extract_eq_error_iff {e : Failure} : p.extract m = .error e ↔ p.FailsAs m e := by
  refine ⟨fun h => ?_, extract_of_failsAs⟩
  rcases gives_or_failsAs m p with ⟨-, w, hw⟩ | ⟨-, e', he⟩
  · rw [extract_of_gives hw] at h
    cases h
  · rw [extract_of_failsAs he] at h
    exact Except.error.inj h ▸ he

theorem exists_extract_eq_ok_iff : (∃ v, p.extract m = .ok v) ↔ p.IsMet m := by
  rcases gives_or_failsAs m p with ⟨hmet, v, hv⟩ | ⟨hmet, e, he⟩
  · exact iff_of_true ⟨v, extract_of_gives hv⟩ hmet
  · refine iff_of_false ?_ hmet
    rintro ⟨v, hv⟩
    rw [extract_of_failsAs he] at hv
    cases hv

theorem extract_congr (h : ∀ v, m'.Carries p.name v ↔ m.Carries p.name v) :
    p.extract m' = p.extract m := by
  rw [extract, extract, Message.param?_congr h]

/-- **The value of a parameter is its value again** in a message that has it under the name. -/
theorem Gives.again (h : p.Gives m v) (hdefault : p.default = .null ∨ p.kind.Holds p.default)
    (hcarries : ∀ u, m'.Carries p.name u ↔ u = v ∧ u ≠ .null) : p.Gives m' v := by
  have hholds : p.kind.Holds v → p.Gives m' v := fun hv =>
    .carried ((hcarries v).mpr ⟨rfl, hv.ne_null⟩) (ParamKind.coerce?_of_holds hv) hv
  cases h with
  | carried _ _ hv => exact hholds hv
  | absent hrequired _ =>
      rcases hdefault with hnull | hdefault
      · refine .absent hrequired fun u hu => ?_
        obtain ⟨hu, hne⟩ := (hcarries u).mp hu
        exact hne (hu.trans hnull)
      · exact hholds hdefault

end ParamSpec

/-! ## All parameters -/

section Announce

variable {params : List ParamSpec} {m m' : Message} {values : Members} {e : Failure}

/-- Messages that agree on each parameter agree on all of them. -/
theorem announce_congr (h : ∀ p ∈ params, p.extract m' = p.extract m) :
    announce params m' = announce params m := by
  rw [announce, announce, mapM_congr fun p hp => by rw [h p hp]]

theorem exists_entry_eq_ok_iff {p : ParamSpec} :
    (∃ entry, ((p.extract m).map fun v => (p.name, v)) = .ok entry) ↔ p.IsMet m := by
  rw [exists_map_eq_ok_iff, ParamSpec.exists_extract_eq_ok_iff]

/-- All parameters have their values as soon as each has one. -/
theorem exists_announce_eq_ok_iff :
    (∃ values, announce params m = .ok values) ↔ ∀ p ∈ params, p.IsMet m := by
  unfold announce
  rw [exists_map_eq_ok_iff, exists_mapM_eq_ok_iff]
  exact forall₂_congr fun _ _ => exists_entry_eq_ok_iff

/-- The failure is that of the first parameter that fails. -/
theorem announce_eq_error_iff :
    announce params m = .error e ↔ ∃ before p after, params = before ++ p :: after ∧
      (∀ q ∈ before, q.IsMet m) ∧ p.FailsAs m e := by
  unfold announce
  simp only [map_eq_error_iff, mapM_eq_error_iff, exists_entry_eq_ok_iff,
    ParamSpec.extract_eq_error_iff]

/-- Parameters with distinct names have their values under these names and in their order. -/
theorem of_announce_eq_ok (hnames : (params.map ParamSpec.name).Nodup)
    (h : announce params m = .ok values) :
    Assoc.keys values = params.map ParamSpec.name ∧
      ∀ p ∈ params, ∃ v, Assoc.get? p.name values = some v ∧ p.Gives m v := by
  obtain ⟨entries, hentries, hvalues⟩ := map_eq_ok_iff.mp h
  have hkeys : Assoc.keys entries = params.map ParamSpec.name := by
    refine map_eq_map_of_mapM_eq_ok (fun p entry hentry => ?_) hentries
    obtain ⟨v, -, rfl⟩ := map_eq_ok_iff.mp hentry
    rfl
  have hdistinct : (Assoc.keys entries).Nodup := hkeys ▸ hnames
  rw [Assoc.ofList_of_nodup hdistinct] at hvalues
  subst hvalues
  refine ⟨hkeys, fun p hp => ?_⟩
  obtain ⟨entry, hmem, hentry⟩ := exists_mem_of_mapM_eq_ok hentries hp
  obtain ⟨v, hv, rfl⟩ := map_eq_ok_iff.mp hentry
  exact ⟨v, Assoc.get?_of_mem hdistinct hmem, ParamSpec.extract_eq_ok_iff.mp hv⟩

/-- What was announced is announced again from a body that consists of it. -/
theorem announce_again (hnames : (params.map ParamSpec.name).Nodup)
    (hdefaults : ∀ p ∈ params, p.default = .null ∨ p.kind.Holds p.default)
    (h : announce params m = .ok values) (hbody : m'.body = .structured (.obj values)) :
    announce params m' = .ok values := by
  rw [← h]
  refine announce_congr fun p hp => ?_
  obtain ⟨v, hget, hv⟩ := (of_announce_eq_ok hnames h).2 p hp
  have hagain := hv.again (hdefaults p hp) fun _ => Message.carries_iff_of_get? hbody hget
  rw [ParamSpec.extract_of_gives hagain, ParamSpec.extract_of_gives hv]

/-- **Announcing parameters.** Parameters with distinct names have values exactly when each is met.
The values stand under the names in the order of the parameters, and each is of the kind that was
announced, or the default of a parameter that the message does not carry. Otherwise the first
parameter that is not met decides: it is missing or invalid, and the failure names it. Nothing but
the values under the announced names has an influence. If each default is null or of its kind, a
message whose body consists of the values gives the same values. -/
theorem announce_sound_complete_stable (hnames : (params.map ParamSpec.name).Nodup) (m : Message) :
    ((∃ values, announce params m = .ok values) ↔ ∀ p ∈ params, p.IsMet m) ∧
    (∀ values, announce params m = .ok values →
      Assoc.keys values = params.map ParamSpec.name ∧
        ∀ p ∈ params, ∃ v, Assoc.get? p.name values = some v ∧ p.Gives m v) ∧
    (∀ e, announce params m = .error e ↔ ∃ before p after, params = before ++ p :: after ∧
      (∀ q ∈ before, q.IsMet m) ∧ p.FailsAs m e) ∧
    (∀ m' : Message, (∀ p ∈ params, ∀ v, m'.Carries p.name v ↔ m.Carries p.name v) →
      announce params m' = announce params m) ∧
    ((∀ p ∈ params, p.default = .null ∨ p.kind.Holds p.default) →
      ∀ (values : Members) (m' : Message), announce params m = .ok values →
        m'.body = .structured (.obj values) → announce params m' = .ok values) := by
  refine ⟨exists_announce_eq_ok_iff, fun values h => of_announce_eq_ok hnames h,
    fun e => announce_eq_error_iff, fun m' h => ?_, fun hdefaults values m' h hbody => ?_⟩
  · exact announce_congr fun p hp => ParamSpec.extract_congr (h p hp)
  · exact announce_again hnames hdefaults h hbody

/-- A parameter of each kind, and a message that spells two of the values in its own way, has null
for a third and something more. -/
theorem announce_each_kind :
    let params : List ParamSpec := [.needed "entity" .string, .optional "id" .integer (.ofNat 0),
      .optional "ids" .array (.arr []), .optional "force" .boolean (.bool false)]
    let m := (Message.blank ⟨1000⟩).setBodyRaw (.structured (.obj [("force", .str "On"),
      ("id", .str " 12.7"), ("ids", .null), ("extra", .num "1"), ("entity", .str "page")]))
    let values : Members := [("entity", .str "page"), ("id", .num "12"), ("ids", .arr []),
      ("force", .bool true)]
    (params.map ParamSpec.name).Nodup ∧ announce params m = .ok values ∧
      announce params (m.setBodyRaw (.structured (.obj values))) = .ok values := by
  intro params m values
  have hnames : (params.map ParamSpec.name).Nodup := by decide
  have hvalues : announce params m = .ok values := by decide +kernel
  have hdefaults : ∀ p ∈ params, p.default = .null ∨ p.kind.Holds p.default := by
    simp only [params, List.forall_mem_cons]
    refine ⟨.inl rfl, .inr ?_, .inr ?_, .inr ?_, List.forall_mem_nil _⟩
    · exact .integer (i := 0) (by decide) (by decide)
    · exact .array rfl
    · exact .boolean false
  obtain ⟨-, -, -, -, hagain⟩ := announce_sound_complete_stable hnames m
  exact ⟨hnames, hvalues, hagain hdefaults values _ hvalues rfl⟩

end Announce

end HttpExchange
