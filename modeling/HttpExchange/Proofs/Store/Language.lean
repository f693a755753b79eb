import HttpExchange.Proofs.Store.Read

/-!
# Languages of stored values

A value of a field that depends on the language is kept apart when it is written
in another language than the default one, and is common to all languages
otherwise. An object is well placed when nothing else is kept apart. Every write
of a store keeps its objects so, and on such objects a write is seen in its own
language, and in another one exactly when it is common and that language has no
value of its own.

## Main results

* `localValue?_writeAll`, `get?_values_writeAll` — where written values go.
* `value_iterate_change` — what an update makes readable in which language.
* `Reachable.wellPlaced` — every object of every store that occurs is well placed.
* `Reachable.answer?_update` — what every language reads after an update.
-/

namespace HttpExchange

open Store

/-- Whether a value of the field in a language is kept apart from the common one. -/
def Schema.keepsApart (defaultLang lang field : Text) (schema : Schema) : Bool :=
  schema.isMultilang field && lang != defaultLang

theorem Schema.keepsApart_iff {defaultLang lang field : Text} {schema : Schema} :
    schema.keepsApart defaultLang lang field = true ↔
      schema.isMultilang field = true ∧ lang ≠ defaultLang := by
  rw [keepsApart, Bool.and_eq_true, bne_iff_ne]

namespace StoredObject

section Write

variable (schema : Schema) (defaultLang lang : Text)

/-! ## Where a value goes -/

theorem write_eq (field : Text) (v : Json) (o : StoredObject) :
    o.write schema defaultLang lang field v =
      if schema.keepsApart defaultLang lang field = true then o.writeLocalized field v lang
      else o.writeCommon field v := rfl

theorem localValue?_writeLocalized_self (field : Text) (v : Json) (written : Text)
    (o : StoredObject) :
    (o.writeLocalized field v written).localValue? field lang =
      if lang = written then some v else o.localValue? field lang := by
  simp only [localValue?, writeLocalized, Assoc.get?_set]
  by_cases hl : lang = written
  · rw [if_pos hl, if_pos hl, Option.bind_some, Assoc.get?_set_self]
  · rw [if_neg hl, if_neg hl]

theorem localValue?_write_self (written field : Text) (v : Json) (o : StoredObject) :
    (o.write schema defaultLang written field v).localValue? field lang =
      if schema.keepsApart defaultLang written field = true ∧ lang = written then some v
      else o.localValue? field lang := by
  rw [write_eq]
  by_cases hapart : schema.keepsApart defaultLang written field = true
  · rw [if_pos hapart, localValue?_writeLocalized_self]
    simp only [hapart, true_and]
  · rw [if_neg hapart, if_neg (fun h => hapart h.1)]
    rfl

theorem get?_values_write_self (written field : Text) (v : Json) (o : StoredObject) :
    Assoc.get? field (o.write schema defaultLang written field v).values =
      if schema.keepsApart defaultLang written field = true then Assoc.get? field o.values
      else some v := by
  rw [write_eq]
  by_cases hapart : schema.keepsApart defaultLang written field = true
  · rw [if_pos hapart, if_pos hapart]
    rfl
  · rw [if_neg hapart, if_neg hapart]
    exact Assoc.get?_set_self field v o.values

/-- What a language has of its own after some values were written: one of them when they were
written in it and are kept apart. -/
theorem localValue?_writeAll {values : Members} (hdistinct : (Assoc.keys values).Nodup)
    (written field : Text) (o : StoredObject) :
    (o.writeAll schema defaultLang written values).localValue? field lang =
      if schema.keepsApart defaultLang written field = true ∧ lang = written then
        (Assoc.get? field values).or (o.localValue? field lang)
      else o.localValue? field lang := by
  unfold writeAll
  -- on the values: the first one either is that of the field, and then the others are not
  induction values generalizing o with
  | nil =>
      split
      · rfl
      · rfl
  | cons e rest ih =>
      obtain ⟨k, v⟩ := e
      obtain ⟨hk, hrest⟩ := List.nodup_cons.mp hdistinct
      rw [List.foldl_cons, ih hrest]
      by_cases hfield : field = k
      · subst hfield
        rw [Assoc.get?_eq_none_iff.mpr hk, localValue?_write_self, Assoc.get?, if_pos rfl]
        split
        · rfl
        · rfl
      · rw [localValue?_write_of_ne hfield, Assoc.get?, if_neg (Ne.symm hfield)]

/-- The common value after some values were written: one of them unless it is kept apart. -/
theorem get?_values_writeAll {values : Members} (hdistinct : (Assoc.keys values).Nodup)
    (written field : Text) (o : StoredObject) :
    Assoc.get? field (o.writeAll schema defaultLang written values).values =
      if schema.keepsApart defaultLang written field = true then Assoc.get? field o.values
      else (Assoc.get? field values).or (Assoc.get? field o.values) := by
  unfold writeAll
  induction values generalizing o with
  | nil =>
      split
      · rfl
      · rfl
  | cons e rest ih =>
      obtain ⟨k, v⟩ := e
      obtain ⟨hk, hrest⟩ := List.nodup_cons.mp hdistinct
      rw [List.foldl_cons, ih hrest]
      by_cases hfield : field = k
      · subst hfield
        rw [Assoc.get?_eq_none_iff.mpr hk, get?_values_write_self, Assoc.get?, if_pos rfl]
        split
        · rfl
        · rfl
      · rw [get?_values_write_of_ne hfield, Assoc.get?, if_neg (Ne.symm hfield)]

end Write

/-! ## What an update makes readable -/

/-- Nothing is kept apart but values of fields that depend on the language, in other languages than
the default one. -/
def WellPlaced (schema : Schema) (defaultLang : Text) (o : StoredObject) : Prop :=
  ∀ field lang, (o.localValue? field lang).isSome → schema.keepsApart defaultLang lang field = true

theorem WellPlaced.localValue?_eq_none {schema : Schema} {defaultLang lang field : Text}
    {o : StoredObject} (h : o.WellPlaced schema defaultLang)
    (hcommon : ¬ schema.keepsApart defaultLang lang field = true) :
    o.localValue? field lang = none := by
  cases hlocal : o.localValue? field lang with
  | none => rfl
  | some v => exact absurd (h field lang (by rw [hlocal]; rfl)) hcommon

/-- A field that does not depend on the language reads the same in every language. -/
theorem WellPlaced.value_eq {schema : Schema} {defaultLang field : Text} {o : StoredObject}
    (h : o.WellPlaced schema defaultLang) (hfield : schema.isMultilang field = false)
    (lang other : Text) : o.value field lang = o.value field other := by
  have hcommon : ∀ l, ¬ schema.keepsApart defaultLang l field = true := by
    intro l hapart
    rw [(Schema.keepsApart_iff.mp hapart).1] at hfield
    cases hfield
  rw [StoredObject.value_eq, StoredObject.value_eq, h.localValue?_eq_none (hcommon lang),
    h.localValue?_eq_none (hcommon other)]

section Change

variable (schema : Schema) (defaultLang lang : Text) {values : Members} (now : Int)

/-- An object that one update names several times has of its own what naming it once would give. -/
theorem localValue?_iterate_change (hdistinct : (Assoc.keys values).Nodup) (field read : Text)
    (o : StoredObject) (n : Nat) :
    ((StoredObject.change schema defaultLang lang values now)^[n + 1] o).localValue? field read =
      if schema.keepsApart defaultLang lang field = true ∧ read = lang then
        (Assoc.get? field values).or (o.localValue? field read)
      else o.localValue? field read := by
  induction n with
  | zero => exact localValue?_writeAll schema defaultLang read hdistinct lang field o
  | succ n ih =>
      rw [Function.iterate_succ_apply']
      refine (localValue?_writeAll schema defaultLang read hdistinct lang field _).trans ?_
      rw [ih]
      split
      · cases Assoc.get? field values <;> rfl
      · rfl

theorem get?_values_iterate_change (hdistinct : (Assoc.keys values).Nodup) {field : Text}
    (hfield : field ≠ "modified".toList) (o : StoredObject) (n : Nat) :
    Assoc.get? field
        ((StoredObject.change schema defaultLang lang values now)^[n + 1] o).values =
      if schema.keepsApart defaultLang lang field = true then Assoc.get? field o.values
      else (Assoc.get? field values).or (Assoc.get? field o.values) := by
  have hchange : ∀ o : StoredObject,
      Assoc.get? field (o.change schema defaultLang lang values now).values =
        Assoc.get? field (o.writeAll schema defaultLang lang values).values :=
    fun o => Assoc.get?_set_of_ne hfield _ _
  induction n with
  | zero => exact (hchange o).trans (get?_values_writeAll schema defaultLang hdistinct lang field o)
  | succ n ih =>
      rw [Function.iterate_succ_apply', hchange,
        get?_values_writeAll schema defaultLang hdistinct, ih]
      split
      · rfl
      · cases Assoc.get? field values <;> rfl

/-- **What is read after an update.** A submitted value is read in its own language, and in any
other one when the field does not depend on the language, or when it was submitted in the default
language and the other one has no value of its own. -/
theorem value_iterate_change (hdistinct : (Assoc.keys values).Nodup) {field : Text}
    (hfield : field ≠ "modified".toList) {o : StoredObject}
    (hplaced : o.WellPlaced schema defaultLang) (read : Text) (n : Nat) :
    ((StoredObject.change schema defaultLang lang values now)^[n + 1] o).value field read =
      if read = lang ∨ schema.isMultilang field = false ∨
          (lang = defaultLang ∧ o.localValue? field read = none) then
        (Assoc.get? field values).getD (o.value field read)
      else o.value field read := by
  rw [value_eq, localValue?_iterate_change schema defaultLang lang now hdistinct,
    get?_values_iterate_change schema defaultLang lang now hdistinct hfield, value_eq]
  by_cases hapart : schema.keepsApart defaultLang lang field = true
  · obtain ⟨hmultilang, hlang⟩ := Schema.keepsApart_iff.mp hapart
    simp only [hapart, hmultilang, hlang, true_and, false_and, or_false, if_true,
      Bool.true_eq_false]
    by_cases hread : read = lang
    · rw [if_pos hread, if_pos hread]
      cases Assoc.get? field values <;> rfl
    · rw [if_neg hread, if_neg hread]
  · rw [if_neg (fun h => hapart h.1), if_neg hapart]
    cases hsubmitted : Assoc.get? field values with
    | none => split <;> rfl
    | some v =>
        cases hlocal : o.localValue? field read with
        | none =>
            have hseen : schema.isMultilang field = false ∨ lang = defaultLang := by
              cases hmultilang : schema.isMultilang field with
              | false => exact .inl rfl
              | true =>
                  refine .inr (Classical.byContradiction fun hlang => hapart ?_)
                  exact Schema.keepsApart_iff.mpr ⟨hmultilang, hlang⟩
            rw [if_pos (.inr (hseen.imp_right fun hlang => ⟨hlang, rfl⟩))]
            rfl
        | some w =>
            -- what the language has of its own hides the value
            obtain ⟨hmultilang, hread⟩ := Schema.keepsApart_iff.mp
              (hplaced field read (by rw [hlocal]; rfl))
            have hhidden : ¬ (read = lang ∨ schema.isMultilang field = false ∨
                (lang = defaultLang ∧ some w = none)) := by
              rintro (rfl | hfixed | ⟨-, hnone⟩)
              · exact hapart (Schema.keepsApart_iff.mpr ⟨hmultilang, hread⟩)
              · rw [hmultilang] at hfixed
                cases hfixed
              · cases hnone
            rw [if_neg hhidden]
            rfl

end Change

/-! ## Objects that occur -/

section WellPlaced

variable {schema : Schema} {defaultLang : Text}

theorem wellPlaced_empty : StoredObject.empty.WellPlaced schema defaultLang := by
  intro field lang h
  cases h

theorem WellPlaced.touch {o : StoredObject} (h : o.WellPlaced schema defaultLang) (now : Int) :
    (o.touch now).WellPlaced schema defaultLang := h

theorem WellPlaced.born {o : StoredObject} (h : o.WellPlaced schema defaultLang) (now : Int) :
    (o.born now).WellPlaced schema defaultLang := h

theorem WellPlaced.write {o : StoredObject} (h : o.WellPlaced schema defaultLang)
    (lang field : Text) (v : Json) :
    (o.write schema defaultLang lang field v).WellPlaced schema defaultLang := by
  intro other read hother
  by_cases heq : other = field
  · subst heq
    rw [localValue?_write_self] at hother
    split at hother
    · next hapart => exact hapart.2 ▸ hapart.1
    · exact h other read hother
  · rw [localValue?_write_of_ne heq] at hother
    exact h other read hother

theorem WellPlaced.writeAll {o : StoredObject} (h : o.WellPlaced schema defaultLang)
    (lang : Text) (values : Members) :
    (o.writeAll schema defaultLang lang values).WellPlaced schema defaultLang := by
  unfold StoredObject.writeAll
  induction values generalizing o with
  | nil => exact h
  | cons e rest ih => exact ih (h.write lang e.1 e.2)

theorem WellPlaced.iterate_change {o : StoredObject} (h : o.WellPlaced schema defaultLang)
    (lang : Text) (values : Members) (now : Int) (n : Nat) :
    ((StoredObject.change schema defaultLang lang values now)^[n] o).WellPlaced schema
      defaultLang := by
  induction n with
  | zero => exact h
  | succ n ih =>
      rw [Function.iterate_succ_apply']
      exact (ih.writeAll lang values).touch now

theorem wellPlaced_newborn (lang : Text) (values : Members) (now : Int) :
    (StoredObject.newborn schema defaultLang lang values now).WellPlaced schema defaultLang :=
  (wellPlaced_empty.born now).writeAll lang values

end WellPlaced

end StoredObject

namespace Store

/-- What a call leaves is well placed when what it found was. -/
theorem Call.wellPlaced_onTable {call : Call} {now : Int} {defaultLang : Text} {t t' : Table}
    {created : List Nat} (h : call.onTable now defaultLang t = .ok (created, t'))
    (ht : ∀ id o, t.object? id = some o → o.WellPlaced t.schema defaultLang) {id : Nat}
    {o : StoredObject} (ho : t'.object? id = some o) : o.WellPlaced t.schema defaultLang := by
  rcases Call.object?_onTable_cases h ho with
    ⟨hold, -⟩ | ⟨values, lang, -, -, -, rfl⟩ |
    ⟨ids, values, lang, before, n, -, -, hbefore, -, rfl⟩ |
    ⟨ids, k, original, source, -, -, -, hsource, rfl⟩
  · exact ht id o hold
  · exact StoredObject.wellPlaced_newborn lang _ now
  · exact (ht id before hbefore).iterate_change lang _ now (n + 1)
  · exact (ht original source hsource).born now

/-- **In every store that occurs, objects are well placed.** -/
theorem Reachable.wellPlaced {s : Store} (h : s.Reachable) {entity : Text} {t : Table}
    (ht : s.table? entity = some t) {id : Nat} {o : StoredObject} (ho : t.object? id = some o) :
    o.WellPlaced t.schema s.defaultLang := by
  induction h generalizing entity t id o with
  | empty defaultLang => cases ht
  | register schema _ ih =>
      change (Store.setTable _ _ _).table? entity = some t at ht
      rw [table?_setTable] at ht
      split at ht
      · obtain rfl := Option.some.inj ht
        cases ho
      · exact ih ht ho
  | @call call s _ ih =>
      rw [Call.defaultLang_run]
      rcases call.run_cases s with ⟨e, hr⟩ | ⟨t₀, created, t', ht₀, hf, hr⟩
      · rw [hr] at ht
        exact ih ht ho
      · rw [hr, table?_setTable] at ht
        split at ht
        · obtain rfl := Option.some.inj ht
          rw [Call.schema_onTable hf]
          exact Call.wellPlaced_onTable hf (fun id o ho => ih ht₀ ho) ho
        · exact ih ht ho

/-! ## Updates -/

theorem nodup_keys_writable {values : Members} (h : (Assoc.keys values).Nodup) (schema : Schema) :
    (Assoc.keys (writable schema values)).Nodup :=
  h.sublist (List.filter_sublist.map Prod.fst)

theorem isWritable_of_contains {schema : Schema} {field : Text}
    (hcontains : schema.contains field = true) (hid : field ≠ "id".toList)
    (hcreated : field ≠ "created".toList) (hmodified : field ≠ "modified".toList) :
    schema.isWritable field = true := by
  have hfree : field ∉ Schema.managed := by
    intro hmem
    simp only [Schema.managed, List.mem_cons, List.not_mem_nil, or_false] at hmem
    rcases hmem with rfl | rfl | rfl
    · exact hid rfl
    · exact hcreated rfl
    · exact hmodified rfl
  rw [Schema.isWritable, hcontains, Bool.true_and, Bool.not_eq_true', List.contains_eq_mem,
    decide_eq_false hfree]

/-- What a target of an update reads: the stamp, or a submitted value, or what it read before. -/
theorem value_updated {schema : Schema} {defaultLang lang : Text} {values : Members}
    (hvalues : (Assoc.keys values).Nodup) {o : StoredObject} {stamp m : Int}
    (hmodified : o.Holds "modified" m) (hplaced : o.WellPlaced schema defaultLang) {field : Text}
    (hcontains : schema.contains field = true) (hid : field ≠ "id".toList) (read : Text)
    (n : Nat) :
    ((StoredObject.change schema defaultLang lang (writable schema values) stamp)^[n + 1] o).value
        field read =
      if field = "modified".toList then .ofInt stamp
      else if field ≠ "created".toList ∧ (read = lang ∨ schema.isMultilang field = false ∨
          (lang = defaultLang ∧ o.localValue? field read = none)) then
        (Assoc.get? field values).getD (o.value field read)
      else o.value field read := by
  by_cases hstamp : field = "modified".toList
  · subst hstamp
    rw [if_pos rfl]
    exact (hmodified.iterate_change_modified schema defaultLang lang values stamp n).value_eq read
  · rw [if_neg hstamp, StoredObject.value_iterate_change schema defaultLang lang stamp
      (nodup_keys_writable hvalues schema) hstamp hplaced]
    by_cases hcreated : field = "created".toList
    · have hfree : Assoc.get? field (writable schema values) = none :=
        Assoc.get?_eq_none_iff.mpr (managed_not_mem_writable (hcreated ▸ by decide) schema values)
      have hkept : ¬ (field ≠ "created".toList ∧ (read = lang ∨ schema.isMultilang field = false ∨
          (lang = defaultLang ∧ o.localValue? field read = none))) := fun h => h.1 hcreated
      rw [hfree, if_neg hkept, Option.getD_none, ite_self]
    · rw [get?_writable, if_pos (isWritable_of_contains hcontains hid hcreated hstamp)]
      simp only [ne_eq, hcreated, not_false_eq_true, true_and]

/-- What a field of an object reads after an update at the time `stamp`, if it read `old` before. -/
def readAfter (s : Store) (schema : Schema) (stamp : Int) (entity : Text) (ids : List Nat)
    (values : Members) (lang : Text) (id : Nat) (field read : Text) (old : Json) : Json :=
  if id ∈ ids then
    if field = "modified".toList then .ofInt stamp
    else if field ≠ "created".toList ∧ (read = lang ∨ schema.isMultilang field = false ∨
        (lang = s.defaultLang ∧ s.ownValue? entity id field read = none)) then
      (Assoc.get? field values).getD old
    else old
  else old

/-- **Reading after an update, in every language.** Take an update of some objects with values for
distinct fields that succeeds on a store that occurs. A target then reads the new stamp where it
says when it was changed; it reads a submitted value in the language of the update, in every
language if the field does not depend on it, and, if the update is in the default language, in
every language that has no value of its own; stamps of creation stay. Everything else reads what it
did, and other entities are as they were. -/
theorem Reachable.answer?_update {s s' : Store} (hs : s.Reachable) {now : Int}
    {entity lang : Text} {ids : List Nat} {values : Members}
    (hvalues : (Assoc.keys values).Nodup)
    (hupdate : s.update now entity ids values lang = (.ok (), s')) :
    (∀ schema id field read old, s.schema? entity = some schema → field ≠ "id".toList →
      s.answer? entity id field read = some old →
      s'.answer? entity id field read =
        some (s.readAfter schema s'.clock entity ids values lang id field read old)) ∧
    (∀ other id, other ≠ entity → s'.object? other id = s.object? other id) := by
  rcases update_cases now entity ids values lang s with ⟨e, he⟩ | ⟨t, ht, -, hr⟩
  · rw [hupdate] at he
    cases he
  obtain rfl := (Prod.mk.inj (hupdate.symm.trans hr)).2
  refine ⟨?_, fun other id hother => object?_setTable_of_ne hother _ _ id⟩
  intro schema id field read old hschema hid hold
  obtain rfl : t.schema = schema := by
    rw [schema?, ht] at hschema
    exact Option.some.inj hschema
  have hcontains := contains_of_answer? ht hid hold
  rw [answer?_of_contains ht hid hcontains] at hold
  obtain ⟨o, ho, rfl⟩ := Option.map_eq_some_iff.mp hold
  have hown : s.ownValue? entity id field read = o.localValue? field read := by
    rw [ownValue?, object?_of_table? ht, ho, Option.bind_some]
  rw [answer?_of_contains (by rw [table?_setTable, if_pos rfl]) hid
    (by rw [Table.schema_modifyAll]; exact hcontains), Table.object?_modifyAll, ho,
    Option.map_some, Option.map_some, readAfter, hown]
  by_cases htarget : id ∈ ids
  · obtain ⟨n, hn⟩ : ∃ n, ids.count id = n + 1 :=
      Nat.exists_eq_succ_of_ne_zero (Nat.ne_of_gt (List.count_pos_iff.mpr htarget))
    obtain ⟨c, m, -, hm, -, -, -⟩ := (hs.sound.tables entity t ht).stamped id o ho
    rw [if_pos htarget, hn,
      value_updated hvalues hm (hs.wellPlaced ht ho) hcontains hid read n]
    rfl
  · rw [if_neg htarget, List.count_eq_zero_of_not_mem htarget]
    rfl

/-- Pages, with a title in one language and a summary in several, both required. -/
def pageSchema : Schema :=
  ((Schema.ofName "page").withField "title" { resultType := "string", required := true }).withField
    "summary" { resultType := "text", required := true, multilang := true }

/-- A store of pages, without any yet. -/
def pageStore : Store := (Store.empty "en").register pageSchema

theorem pageStore_reachable : pageStore.Reachable := (Reachable.empty "en").register pageSchema

/-- A page is made and then translated, and another page is made. -/
def translatedPages : Store := pageStore.runCalls [
  .create 50 "page" [("title", .str "a"), ("summary", .str "hello")] "en",
  .update 60 "page" [1] [("summary", .str "bonjour")] "fr",
  .create 70 "page" [("title", .str "b"), ("summary", .str "hi")] "en"]

/-- A new title and a new summary, and a stamp that nobody may write. -/
def pageChange : Members :=
  [("title", .str "c"), ("summary", .str "good day"), ("created", .ofInt 0)]

/-- The first page changed in the default language, which the call names twice. -/
def changedPages : Store := (translatedPages.update 80 "page" [1, 1] pageChange "en").2

theorem translatedPages_answer?_update :
    translatedPages.Reachable ∧ (Assoc.keys pageChange).Nodup ∧
      translatedPages.update 80 "page" [1, 1] pageChange "en" = (.ok (), changedPages) ∧
      ["en", "fr", "nl"].map (fun lang => changedPages.answer? "page" 1 "summary" lang.toList) =
        [some (.str "good day"), some (.str "bonjour"), some (.str "good day")] ∧
      (∀ schema id field read old, translatedPages.schema? "page" = some schema →
        field ≠ "id".toList → translatedPages.answer? "page" id field read = some old →
        changedPages.answer? "page" id field read = some (translatedPages.readAfter schema
          changedPages.clock "page" [1, 1] pageChange "en" id field read old)) ∧
      (∀ other id, other ≠ "page".toList →
        changedPages.object? other id = translatedPages.object? other id) :=
  have hreachable : translatedPages.Reachable := pageStore_reachable.runCalls _
  have hdone : translatedPages.update 80 "page" [1, 1] pageChange "en" = (.ok (), changedPages) :=
    Prod.ext rfl rfl
  ⟨hreachable, by decide, hdone, by decide,
    Reachable.answer?_update hreachable (by decide) hdone⟩

end Store

end HttpExchange
