import HttpExchange.Proofs.Action.Journal
import HttpExchange.Proofs.Adapter
import HttpExchange.Proofs.Store.Read

/-!
# No update is lost

A client that reads an object keeps the text of the stamp of its last change,
and sends it along when it writes. The clock never gives a stamp twice, every
update gives one to each object it names, nothing else touches the stamp, and
the text denotes the stamp it was made from. So the client is refused exactly
when somebody has updated the object in the meantime, whoever that was and
whatever else happened.

## Main definitions

* `Update.Marked` — an update that carries the mark of the object it is about.
* `Journaled.Tracks` — the invariant: the stamp has moved exactly when the
  journal has an update of the object.

## Main results

* `Update.Marked.conflict_iff` — an update with a mark is refused exactly when the
  stamp has moved.
* `Journaled.Tracks.runAll` — the invariant holds along every run.
* `Store.Reachable.no_lost_update` — the refusals are those that are due.
-/

namespace HttpExchange

open Store

namespace Journaled

/-- The journal has an update of an object. -/
def Updated (entity : Text) (id : Nat) (j : Journaled) : Prop :=
  ∃ call ∈ j.journal, call.Updates entity id

instance (entity : Text) (id : Nat) (j : Journaled) : Decidable (j.Updated entity id) :=
  inferInstanceAs (Decidable (∃ call ∈ j.journal, call.Updates entity id))

/-- An object had the stamp `m₀` when the journal was begun. Its stamp is later exactly when the
journal has an update of it, and never earlier. -/
structure Tracks (schema : Schema) (entity : Text) (id : Nat) (m₀ : Int) (j : Journaled) :
    Prop where
  sound : j.store.Sound
  schema : j.store.schema? entity = some schema
  stamp : ∃ o m, j.store.object? entity id = some o ∧ o.Holds "modified" m ∧ m₀ ≤ m ∧
    (m₀ < m ↔ j.Updated entity id)

variable {schema : Schema} {entity : Text} {id : Nat} {m₀ : Int}

theorem Tracks.start {s : Store} (hs : s.Sound) (hschema : s.schema? entity = some schema)
    {o : StoredObject} (ho : s.object? entity id = some o) (hm : o.Holds "modified" m₀) :
    (Journaled.start s).Tracks schema entity id m₀ where
  sound := hs
  schema := hschema
  stamp := by
    refine ⟨o, m₀, ho, hm, Int.le_refl m₀, ?_⟩
    simp [Updated, Journaled.start]

theorem updated_append (j : Journaled) (s : Store) (call : Call) :
    Updated entity id ⟨s, j.journal ++ [call]⟩ ↔
      j.Updated entity id ∨ call.Updates entity id := by
  simp [Updated, List.mem_append, or_and_right, exists_or]

theorem Tracks.call {j : Journaled} (h : j.Tracks schema entity id m₀) (call : Call) :
    (call.run j).2.Tracks schema entity id m₀ := by
  obtain ⟨o, m, ho, hm, hle, hiff⟩ := h.stamp
  rw [run_eq_note]
  refine ⟨?_, ?_, ?_⟩
  · rw [note_store]
    exact h.sound.call call
  · rw [note_store, call.schema?_run]
    exact h.schema
  · rcases hr : call.run j.store with ⟨e | created, s'⟩
    · have htables : s'.tables = j.store.tables := by
        have hkept := (h.sound.effect call).tables_of_error e
        rw [hr] at hkept
        exact hkept rfl
      refine ⟨o, m, ?_, hm, hle, hiff⟩
      simp only [note, object?, table?, htables]
      exact ho
    · by_cases hupdates : call.Updates entity id
      · have hlt : m < s'.clock := by
          have hclock := call.clock_lt j.store
          rw [hr] at hclock
          exact Int.lt_of_le_of_lt (h.sound.stamp_le ho (by decide) hm) hclock
        obtain ⟨o', ho', hm'⟩ := h.sound.modified_of_updates hupdates (congrArg Prod.fst hr)
        rw [hr] at ho' hm'
        refine ⟨o', s'.clock, ho', hm', by omega, ?_⟩
        exact iff_of_true (by omega) ((updated_append j s' call).mpr (Or.inr hupdates))
      · have hkept := Call.object?_run_of_not_updates hupdates ho
        rw [hr] at hkept
        refine ⟨o, m, hkept, hm, hle, ?_⟩
        rw [hiff, note, updated_append]
        simp only [hupdates, or_false]

/-- The invariant holds along every run. -/
theorem Tracks.runAll {j : Journaled} (h : j.Tracks schema entity id m₀) (events : List Event) :
    (Event.runAll events j).Tracks schema entity id m₀ :=
  Event.runAll_preserves (P := Tracks schema entity id m₀)
    (fun call _ h => h.call call) events h

end Journaled

/-! ## Updates with a mark -/

namespace Update

/-- An update of one object, which goes to no draft, by a client that carries a mark and does not
insist. All its fields can be stored. -/
structure Marked (registry : Registry) (schema : Schema) (entity : Text) (id : Nat) (mark : Text)
    (p : UpdateParams) : Prop where
  entity_eq : p.entity = entity
  target : targets p = .ok [id]
  unforced : p.force = false
  marked : Assoc.get? "modified" p.fields = some (.str mark)
  adapts : ∃ fields, adaptFields registry schema p.fields = .ok fields ∧
    isDraft (paramOf "state" fields) = false

/-- A field that is stored has the value that its first value is stored as. -/
theorem get?_adaptFields {registry : Registry} {schema : Schema} {field : Text}
    {f : FieldDescriptor} (hf : schema.field? field = some f) {v w : Json}
    (hv : adaptField registry field f v = .ok (some w)) {given fields : Members}
    (hgiven : Assoc.get? field given = some v)
    (h : adaptFields registry schema given = .ok fields) :
    Assoc.get? field fields = some w := by
  induction given generalizing fields with
  | nil => cases hgiven
  | cons e rest ih =>
      obtain ⟨k, u⟩ := e
      by_cases hk : k = field
      · subst hk
        obtain rfl : u = v := by
          rw [Assoc.get?, if_pos rfl] at hgiven
          exact Option.some.inj hgiven
        simp only [adaptFields, hf, hv] at h
        obtain ⟨w', hw, h⟩ := bind_eq_ok_iff.mp h
        obtain rfl := Except.ok.inj hw
        obtain ⟨rest', -, hfields⟩ := bind_eq_ok_iff.mp h
        obtain rfl := Except.ok.inj hfields
        exact if_pos rfl
      · have hgiven' : Assoc.get? field rest = some v := by
          rwa [Assoc.get?, if_neg hk] at hgiven
        rw [adaptFields] at h
        cases hother : schema.field? k with
        | none =>
            rw [hother] at h
            exact ih hgiven' h
        | some g =>
            rw [hother] at h
            obtain ⟨u', -, h⟩ := bind_eq_ok_iff.mp h
            obtain ⟨rest', hrest, hfields⟩ := bind_eq_ok_iff.mp h
            obtain rfl := Except.ok.inj hfields
            cases u' with
            | none => exact ih hgiven' hrest
            | some u' => exact (if_neg hk).trans (ih hgiven' hrest)

/-- The mark of a stamp is stored as that stamp. -/
theorem adaptField_mark (registry : Registry) {f : FieldDescriptor}
    (hf : Assoc.get? "modified" Schema.specialFields = some f) {m : Int}
    (hmoment : DateTime.InFourDigits m) :
    adaptField registry "modified" f (.str (Timestamp.text (DateTime.ofSeconds m))) =
      .ok (some (.ofInt m)) := by
  obtain rfl : ({ resultType := "datetime" } : FieldDescriptor) = f := by
    exact Option.some.inj hf
  have hempty : (Timestamp.text (DateTime.ofSeconds m)).isEmpty = false := by
    have hread := Moment.read?_text hmoment
    cases htext : Timestamp.text (DateTime.ofSeconds m) with
    | cons c rest => rfl
    | nil =>
        have hnone : Moment.read? [] = none := by decide
        rw [htext, hnone] at hread
        cases hread
  have hadapter : registry.resolveFor "json"
      (FieldDescriptor.usageTag { resultType := "datetime" }) = .dateTime :=
    registry.resolveFor_datetime
  simp only [adaptField, isSkipped, isEmptyText, hempty, Bool.false_and, Bool.false_eq_true,
    if_false, hadapter, Adapter.dateTime_adaptIn hmoment]

/-- Showing objects never fails with a conflict. -/
theorem shown_ne_conflict {S : Type} [ObjectStore S] (registry : Registry) (p : UpdateParams)
    (schema : Schema) (ids : List Nat) (s : S) (code : Text) :
    shown registry p schema ids s ≠ .error (.conflict code) := by
  unfold shown
  cases ObjectStore.read p.entity ids shownFields p.lang s with
  | error e => simp
  | ok rows =>
      intro h
      obtain ⟨row, -, hrow⟩ := exists_of_mapM_eq_error h
      rcases bind_eq_error_iff.mp hrow with hrow | ⟨_, -, hrow⟩
      · obtain ⟨⟨field, v⟩, -, hfield⟩ := exists_of_mapM_eq_error hrow
        cases hadapt : (registry.resolveFor "json" (usageOf schema field)).adaptOut v with
        | ok w =>
            simp only [hadapt] at hfield
            cases hfield
        | error e =>
            simp only [hadapt] at hfield
            cases hfield
      · cases hrow

theorem finish_ne_conflict {S : Type} [ObjectStore S] (wall : Nat → Int) (registry : Registry)
    (p : UpdateParams) (schema : Schema) (ids : List Nat) (fields : Members) (s : S) (code : Text) :
    (finish wall registry p schema ids fields s).1 ≠ .error (.conflict code) := by
  unfold finish
  rcases ObjectStore.update (wall 2) p.entity ids fields p.lang s with ⟨_ | _, s'⟩
  · simp
  · exact shown_ne_conflict registry p schema ids s' code

section Marked

variable {registry : Registry} {schema : Schema} {entity mark : Text} {id : Nat}
  {p : UpdateParams} {s : Store} {o : StoredObject} {m m₀ : Int}

/-- An update with a mark is planned when the object has the stamp that the mark shows, and is
refused otherwise. -/
theorem Marked.plan_eq
    (h : Marked registry schema entity id (Timestamp.text (DateTime.ofSeconds m₀)) p)
    (hschema : s.schema? entity = some schema)
    (hfield : schema.field? "modified" = Assoc.get? "modified" Schema.specialFields)
    (hmoment : DateTime.InFourDigits m₀) (ho : s.object? entity id = some o)
    (hm : o.Holds "modified" m) :
    plan registry p s = .error (.conflict "concurrent_change") ∧ m ≠ m₀ ∨
      ∃ fields, plan registry p s = .ok (schema, .inPlace [id] fields) ∧ m = m₀ := by
  obtain ⟨rfl, htarget, hforce, hmark, fields, hadapts, hdraft⟩ := h
  obtain ⟨t, ht, rfl⟩ := Option.map_eq_some_iff.mp hschema
  have hmodified : Assoc.get? "modified" fields = some (.ofInt m₀) :=
    get?_adaptFields hfield (adaptField_mark registry rfl hmoment) hmark hadapts
  have hempty : fields.isEmpty = false := by
    cases fields with
    | nil => cases hmodified
    | cons e rest => rfl
  have hcontains : t.schema.contains "modified" = true := by
    rw [Schema.contains, hfield]
    rfl
  have hread : ObjectStore.read p.entity [id] ["modified".toList] p.lang s =
      .ok [row t.schema ["modified".toList] p.lang id o] :=
    read_singleton ht ((object?_of_table? ht id).symm.trans ho) _ _
  have hlive : liveValue "modified" [row t.schema ["modified".toList] p.lang id o] =
      .ofInt m := by
    rw [liveValue, List.head?_cons, Option.bind_some,
      get?_row (by decide) List.mem_cons_self hcontains, Option.getD_some, hm.value_eq]
  have hplan : plan registry p s =
      if !(Json.ofInt m).equiv (.ofInt m₀) then .error (.conflict "concurrent_change")
      else .ok (t.schema, .inPlace [id] fields) := by
    have hschema' : ObjectStore.schema? p.entity s = some t.schema := hschema
    simp only [plan, htarget, hschema', hadapts, hempty, planFields, List.length_singleton,
      bne_self_eq_false, Bool.false_eq_true, if_false, hdraft, hmodified, hread, hlive, hforce,
      Bool.not_false, Bool.and_true]
    split <;> rfl
  by_cases hsame : m = m₀
  · have hequiv : (Json.ofInt m).equiv (.ofInt m₀) = true := by
      rw [hsame]
      exact beq_self_eq_true (Numeral.ofInt m₀)
    exact Or.inr ⟨fields, by rw [hplan, hequiv]; rfl, hsame⟩
  · have hequiv : (Json.ofInt m).equiv (.ofInt m₀) = false :=
      beq_eq_false_iff_ne.mpr fun h => hsame (Numeral.ofInt_injective h)
    exact Or.inl ⟨by rw [hplan, hequiv]; rfl, hsame⟩

/-- An update with a mark is refused exactly when the stamp has moved, and then does nothing. -/
theorem Marked.conflict_iff
    (h : Marked registry schema entity id (Timestamp.text (DateTime.ofSeconds m₀)) p)
    (hschema : s.schema? entity = some schema)
    (hfield : schema.field? "modified" = Assoc.get? "modified" Schema.specialFields)
    (hmoment : DateTime.InFourDigits m₀) (ho : s.object? entity id = some o)
    (hm : o.Holds "modified" m) (wall : Nat → Int) (c : Context) :
    ((Update.run wall registry p s c).1 = .error (.conflict "concurrent_change") ↔ m ≠ m₀) ∧
      ((Update.run wall registry p s c).1 = .error (.conflict "concurrent_change") →
        (Update.run wall registry p s c).2 = (s, c)) := by
  rcases h.plan_eq hschema hfield hmoment ho hm with ⟨hplan, hne⟩ | ⟨fields, hplan, heq⟩
  · have hrun : Update.run wall registry p s c =
        (.error (.conflict "concurrent_change"), s, c) := by
      rw [Update.run, apply_run, hplan]
    rw [hrun]
    exact ⟨iff_of_true rfl hne, fun _ => rfl⟩
  · have hnot : (Update.run wall registry p s c).1 ≠ .error (.conflict "concurrent_change") := by
      intro hconflict
      obtain ⟨happly, -⟩ := Update.run_error hconflict (fun _ => by simp)
      rw [apply_run, hplan] at happly
      exact finish_ne_conflict wall registry p schema [id] fields s _ happly
    exact ⟨iff_of_false hnot (fun hne => hne heq), fun hconflict => absurd hconflict hnot⟩

end Marked

end Update

/-! ## Runs -/

/-- **No update is lost.** Let a client read an object of any store that occurs, and keep the text
that the stamp of its last change is shown as. Whatever clients do after that, an update with this
mark is refused exactly when some update of the object has succeeded in the meantime, and a refused
update changes nothing. -/
theorem Store.Reachable.no_lost_update {s : Store} (hs : s.Reachable)
    (hclock : s.clock ≤ 253402300799) {schema : Schema} {entity : Text} {id : Nat}
    {o : StoredObject} (hschema : s.schema? entity = some schema)
    (hfield : schema.field? "modified" = Assoc.get? "modified" Schema.specialFields)
    (ho : s.object? entity id = some o) :
    ∃ mark, (∀ lang, Adapter.dateTime.adaptOut (o.value "modified" lang) = .ok (.str mark)) ∧
      ∀ (events : List Event) (wall : Nat → Int) (registry : Registry) (p : UpdateParams)
        (c : Context), Update.Marked registry schema entity id mark p →
        ((Update.run wall registry p (Event.runAll events s) c).1 =
            .error (.conflict "concurrent_change") ↔
          (Event.runAll events (Journaled.start s)).Updated entity id) ∧
        ((Update.run wall registry p (Event.runAll events s) c).1 =
            .error (.conflict "concurrent_change") →
          (Update.run wall registry p (Event.runAll events s) c).2 =
            (Event.runAll events s, c)) := by
  obtain ⟨b, m₀, -, hm₀, hpos, hle, hbound⟩ := hs.sound.object ho
  have hmoment : DateTime.InFourDigits m₀ := ⟨by omega, by omega⟩
  refine ⟨Timestamp.text (DateTime.ofSeconds m₀), ?_, ?_⟩
  · intro lang
    rw [hm₀.value_eq, Adapter.dateTime_adaptOut hmoment]
  · intro events wall registry p c hmarked
    have htracks := (Journaled.Tracks.start hs.sound hschema ho hm₀).runAll events
    obtain ⟨o', m, ho', hm, hle', hupdated⟩ := htracks.stamp
    have hschema' := htracks.schema
    rw [Journaled.runAll_store, Journaled.start_store] at ho' hschema'
    obtain ⟨hiff, hkept⟩ := hmarked.conflict_iff hschema' hfield hmoment ho' hm wall c
    rw [hiff, ← hupdated]
    exact ⟨by omega, fun hne => hkept (hiff.mpr hne)⟩

/-- A change of the note by a client that read it when it was made. -/
def markedChange : UpdateParams where
  entity := "note"
  id := 1
  ids := []
  fields := [("title", .str "b"), ("modified", .str "1970-01-01T00:00:50+00:00")]
  force := false
  lang := "fr"

/-- Other clients make and copy notes, change a copy, and fail to change the note itself, while the
wall clock goes back. -/
def othersAtWork : List Event := [
  .call (.create 70 "note" [("title", .str "c")] "en"),
  .clone 10 ⟨"note", [1], "en"⟩ (.create [] {} {} {}),
  .call (.update 5 "note" [3] [("title", .str "d")] "en"),
  .call (.update 5 "note" [1, 9] [("title", .str "d")] "en")]

theorem oneNoteStore_no_lost_update :
    (Update.run (fun _ => 0) ⟨.sqlite⟩ markedChange (Event.runAll othersAtWork oneNoteStore)
        (.create [] {} {} {})).1 ≠ .error (.conflict "concurrent_change") ∧
      (Update.run (fun _ => 0) ⟨.sqlite⟩ markedChange
        (Event.runAll (othersAtWork ++ [.call (.update 5 "note" [2, 1] [] "en")]) oneNoteStore)
        (.create [] {} {} {})).1 = .error (.conflict "concurrent_change") := by
  have hschema : oneNoteStore.schema? "note" = some noteSchema := by decide
  have ho : oneNoteStore.object? "note" 1 = some (.newborn noteSchema "en" "en"
      [("title", .str "a"), ("state", .str "instance")] 50) := by decide +kernel
  obtain ⟨mark, hmark, hrefused⟩ := Store.Reachable.no_lost_update oneNoteStore_reachable
    (by decide) hschema (by decide) ho
  have hmark' : mark = "1970-01-01T00:00:50+00:00".toList := by
    have hshown : Adapter.dateTime.adaptOut (.ofInt 50) =
        .ok (.str "1970-01-01T00:00:50+00:00") := by decide +kernel
    exact Json.str.inj (Except.ok.inj ((hmark "en").symm.trans hshown))
  have hmarked : Update.Marked ⟨.sqlite⟩ noteSchema "note" 1 mark markedChange := by
    rw [hmark']
    exact ⟨rfl, rfl, rfl, rfl, [("title", .str "b"), ("modified", .ofInt 50)],
      by decide +kernel, by decide +kernel⟩
  refine ⟨?_, ?_⟩
  · intro hconflict
    have hupdated := (hrefused othersAtWork _ _ _ _ hmarked).1.mp hconflict
    revert hupdated
    decide +kernel
  · exact (hrefused _ _ _ _ _ hmarked).1.mpr (by decide +kernel)

end HttpExchange
