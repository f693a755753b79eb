import HttpExchange.Proofs.Store.Filled
import Mathlib.Data.List.Induction

/-!
# Required fields along runs

The check of a write is made in its language, so a run sees to the required
fields of an object language by language. `Vouched` says which languages it has
seen to: that of the last write always is, and another one stays so as long as
writes in other languages stay away from drafts. There a language reads a value
for every required field. Where neither the field nor the state depends on the
language, all of them do.

## Main definitions

* `Vouched` — the languages in which the required fields of an object are seen to.
* `Mandatory` — required fields in the default language, without a condition.

## Main results

* `exists_vouched` — every object is seen to in some language.
* `Vouched.filled` — what is seen to is filled.
* `mandatory_of_run` — what is read of required fields after every run.
* `not_mandatory_of_create` — a creation in another language leaves the default one without.
-/

namespace HttpExchange

open Store

/-! ## What a run has seen to -/

namespace Store

/-- The values that a call submits are for distinct fields. -/
def Call.IsDistinct : Call → Prop
  | .create _ _ values _ | .update _ _ _ values _ => (Assoc.keys values).Nodup
  | .clone .. => True

instance : ∀ call : Call, Decidable call.IsDistinct
  | .create _ _ values _ | .update _ _ _ values _ =>
    inferInstanceAs (Decidable (Assoc.keys values).Nodup)
  | .clone .. => inferInstanceAs (Decidable True)

theorem runCalls_concat (calls : List Call) (call : Call) (s : Store) :
    s.runCalls (calls ++ [call]) = (call.run (s.runCalls calls)).2 := by
  rw [runCalls, List.foldl_append]
  rfl

theorem schema?_runCalls (calls : List Call) (s : Store) (entity : Text) :
    (s.runCalls calls).schema? entity = s.schema? entity := by
  induction calls generalizing s with
  | nil => rfl
  | cons call calls ih => exact (ih _).trans (call.schema?_run s entity)

/-! ### The objects that a successful call writes -/

section Written

variable {s : Store} (hs : s.Sound) {call : Call} {created : List Nat}
  (hok : (call.run s).1 = .ok created)

include hok in
/-- A call that succeeds has replaced the table of its entity. -/
theorem Call.table?_run_of_ok : ∃ t t', s.table? call.entity = some t ∧
    call.onTable (s.tick call.now).clock s.defaultLang t = .ok (created, t') ∧
    ∀ id, (call.run s).2.object? call.entity id = t'.object? id := by
  rcases call.run_cases s with ⟨e, hr⟩ | ⟨t, created', t', ht, hf, hr⟩
  · rw [hr] at hok
    cases hok
  · rw [hr] at hok ⊢
    obtain rfl := Except.ok.inj hok
    exact ⟨t, t', ht, hf, object?_setTable_self call.entity t' _⟩

include hs hok in
/-- The objects of the numbers that a call gives are there now. -/
theorem Sound.exists_object_of_created {id : Nat} (hid : id ∈ created) :
    ∃ o, (call.run s).2.object? call.entity id = some o := by
  obtain ⟨t, t', ht, hf, hobject⟩ := Call.table?_run_of_ok hok
  obtain ⟨-, hnumbers, -⟩ := (hs.tables call.entity t ht).onTable_fresh hf
  have hmem : id ∈ t'.numbers := hnumbers ▸ List.mem_append_right t.numbers hid
  obtain ⟨o, ho⟩ := Option.isSome_iff_exists.mp ((t'.object?_isSome_iff id).mpr hmem)
  exact ⟨o, (hobject id).trans ho⟩

end Written

/-- What a creation stores under the number that it gives. -/
theorem Sound.object_of_create {s : Store} (hs : s.Sound) {now : Int} {entity lang : Text}
    {values : Members} {id : Nat}
    (hok : ((Call.create now entity values lang).run s).1 = .ok [id]) {o : StoredObject}
    (ho : ((Call.create now entity values lang).run s).2.object? entity id = some o) :
    ∃ t, s.table? entity = some t ∧
      missing? t.schema (withState (writable t.schema values)) lang .empty = none ∧
      o = .newborn t.schema s.defaultLang lang (withState (writable t.schema values))
        (s.tick now).clock := by
  obtain ⟨t, t', ht, hf, hobject⟩ := Call.table?_run_of_ok hok
  obtain ⟨-, -, hfree⟩ := (hs.tables entity t ht).onTable_fresh hf
  rcases Call.object?_onTable_cases hf ((hobject id).symm.trans ho) with
    ⟨hold, -⟩ | ⟨values', lang', hcall, -, hcheck, rfl⟩ | ⟨_, _, _, _, _, hcall, -⟩ |
    ⟨_, _, _, _, hcall, -⟩
  · have hmem := (t.object?_isSome_iff id).mp (by rw [hold]; rfl)
    exact absurd hmem (hfree id (List.mem_singleton.mpr rfl))
  · cases hcall
    exact ⟨t, ht, hcheck, rfl⟩
  · cases hcall
  · cases hcall

/-- What an update makes of a target. -/
theorem object_of_update {s : Store} {now : Int} {entity lang : Text} {ids : List Nat}
    {values : Members} (hok : ((Call.update now entity ids values lang).run s).1 = .ok [])
    {id : Nat} (hid : id ∈ ids) {o : StoredObject}
    (ho : ((Call.update now entity ids values lang).run s).2.object? entity id = some o) :
    ∃ t before n, s.table? entity = some t ∧ t.object? id = some before ∧
      missing? t.schema (writable t.schema values) lang before = none ∧
      o = (StoredObject.change t.schema s.defaultLang lang (writable t.schema values)
        (s.tick now).clock)^[n + 1] before := by
  obtain ⟨t, t', ht, hf, hobject⟩ := Call.table?_run_of_ok hok
  rcases Call.object?_onTable_cases hf ((hobject id).symm.trans ho) with
    ⟨-, hkept⟩ | ⟨_, _, hcall, -⟩ |
    ⟨ids', values', lang', before, n, hcall, -, hbefore, hcheck, rfl⟩ | ⟨_, _, _, _, hcall, -⟩
  · exact absurd hid (hkept ids values lang rfl)
  · cases hcall
  · cases hcall
    exact ⟨t, before, n, ht, hbefore, hcheck, rfl⟩
  · cases hcall

/-- What is stored under the number of a copy. -/
theorem Sound.object_of_clone {s : Store} (hs : s.Sound) {now : Int} {entity : Text}
    {ids copies : List Nat} (hok : ((Call.clone now entity ids).run s).1 = .ok copies)
    {k original id : Nat} (horiginal : ids[k]? = some original) (hid : copies[k]? = some id)
    {o : StoredObject} (ho : ((Call.clone now entity ids).run s).2.object? entity id = some o) :
    ∃ source, s.object? entity original = some source ∧ o = source.born (s.tick now).clock := by
  obtain ⟨t, t', ht, hf, hobject⟩ := Call.table?_run_of_ok hok
  obtain ⟨hrange, -, hfree⟩ := (hs.tables entity t ht).onTable_fresh hf
  rcases Call.object?_onTable_cases hf ((hobject id).symm.trans ho) with
    ⟨hold, -⟩ | ⟨_, _, hcall, -⟩ | ⟨_, _, _, _, _, hcall, -⟩ |
    ⟨ids', k', original', source, hcall, hid', horiginal', hsource, rfl⟩
  · have hmem := (t.object?_isSome_iff id).mp (by rw [hold]; rfl)
    exact absurd hmem (hfree id (List.mem_of_getElem? hid))
  · cases hcall
  · cases hcall
  · cases hcall
    -- the copies have distinct numbers, so this is the copy of that original
    have hlt : k < copies.length := (List.getElem?_eq_some_iff.mp hid).1
    have hdistinct : copies.Nodup := hrange ▸ List.nodup_range'
    obtain rfl : k = k' := (List.getElem?_inj hlt hdistinct).mp (hid.trans hid'.symm)
    obtain rfl := Option.some.inj (horiginal.symm.trans horiginal')
    exact ⟨source, (object?_of_table? ht original).trans hsource, rfl⟩

/-! ### Languages that are seen to -/

/-- The object can be read in the language and is no draft there. -/
def OutsideDrafts (entity : Text) (id : Nat) (lang : Text) (s : Store) : Prop :=
  ∃ state, s.answer? entity id "state" lang = some state ∧ isDraft state = false

/-- Some calls on a store have seen to the required fields of an object, as a language reads them.
-/
inductive Vouched (start : Store) (entity : Text) : List Call → Nat → Text → Prop
  /-- A creation sees to its object in its language, -/
  | created {calls : List Call} {now : Int} {values : Members} {lang : Text} {id : Nat} :
      ((Call.create now entity values lang).run (start.runCalls calls)).1 = .ok [id] →
      Vouched start entity (calls ++ [.create now entity values lang]) id lang
  /-- and so does an update to its targets. -/
  | updated {calls : List Call} {now : Int} {ids : List Nat} {values : Members} {lang : Text}
      {id : Nat} :
      ((Call.update now entity ids values lang).run (start.runCalls calls)).1 = .ok [] →
      id ∈ ids → Vouched start entity (calls ++ [.update now entity ids values lang]) id lang
  /-- Other languages stay seen to when the update finds no draft there and leaves none in its
  own. -/
  | translated {calls : List Call} {now : Int} {ids : List Nat} {values : Members}
      {lang read : Text} {id : Nat} : Vouched start entity calls id read →
      ((Call.update now entity ids values lang).run (start.runCalls calls)).1 = .ok [] →
      id ∈ ids → (start.runCalls calls).OutsideDrafts entity id read →
      (start.runCalls (calls ++ [.update now entity ids values lang])).OutsideDrafts entity id
        lang →
      Vouched start entity (calls ++ [.update now entity ids values lang]) id read
  /-- A copy is seen to where its original is. -/
  | copied {calls : List Call} {now : Int} {ids copies : List Nat} {lang : Text}
      {k original id : Nat} : Vouched start entity calls original lang →
      ((Call.clone now entity ids).run (start.runCalls calls)).1 = .ok copies →
      ids[k]? = some original → copies[k]? = some id →
      Vouched start entity (calls ++ [.clone now entity ids]) id lang
  /-- Any other call leaves the object alone. -/
  | kept {calls : List Call} {call : Call} {lang : Text} {id : Nat} :
      Vouched start entity calls id lang →
      (call.Updates entity id → ∃ e, (call.run (start.runCalls calls)).1 = .error e) →
      Vouched start entity (calls ++ [call]) id lang

section Vouched

variable {start : Store} (hstart : start.Reachable) {entity : Text}

include hstart in
/-- What is seen to is there. -/
theorem Vouched.exists_object {calls : List Call} {id : Nat} {lang : Text}
    (h : Vouched start entity calls id lang) :
    ∃ o, (start.runCalls calls).object? entity id = some o := by
  -- no call takes an object away: its stamp of creation stays
  have hkept : ∀ {calls : List Call} (call : Call) {id : Nat},
      (∃ o, (start.runCalls calls).object? entity id = some o) →
      ∃ o, (start.runCalls (calls ++ [call])).object? entity id = some o := by
    rintro calls call id ⟨o, ho⟩
    obtain ⟨c, m, hc, -⟩ := (hstart.runCalls calls).sound.object ho
    obtain ⟨o', ho', -⟩ := call.created_kept _ ho hc
    rw [runCalls_concat]
    exact ⟨o', ho'⟩
  have hnew : ∀ {calls : List Call} {call : Call} {created : List Nat} {id : Nat},
      call.entity = entity → (call.run (start.runCalls calls)).1 = .ok created → id ∈ created →
      ∃ o, (start.runCalls (calls ++ [call])).object? entity id = some o := by
    intro calls call created id hentity hok hid
    rw [runCalls_concat, ← hentity]
    exact (hstart.runCalls calls).sound.exists_object_of_created hok hid
  induction h with
  | created hok => exact hnew rfl hok (List.mem_singleton.mpr rfl)
  | @updated calls now ids values lang id hok hid =>
      rw [runCalls_concat]
      have hupdates : Call.Updates entity id (.update now entity ids values lang) := ⟨rfl, hid⟩
      obtain ⟨o, ho, -⟩ := (hstart.runCalls calls).sound.modified_of_updates hupdates hok
      exact ⟨o, ho⟩
  | translated _ _ _ _ _ ih => exact hkept _ ih
  | copied _ hok _ hid _ => exact hnew rfl hok (List.mem_of_getElem? hid)
  | kept _ _ ih => exact hkept _ ih

/-- Every object is seen to in some language, that of the last write that named it. -/
theorem exists_vouched (hempty : ∀ id, start.object? entity id = none) (calls : List Call)
    {id : Nat} {o : StoredObject} (ho : (start.runCalls calls).object? entity id = some o) :
    ∃ lang, Vouched start entity calls id lang := by
  -- on the calls from the last one back, which either made or changed the object, or found it
  induction calls using List.reverseRecOn generalizing id o with
  | nil =>
      rw [runCalls, List.foldl_nil, hempty] at ho
      cases ho
  | append_singleton calls call ih =>
      rw [runCalls_concat] at ho
      rcases Call.object?_run_cases ho with
        ⟨hold, hfails⟩ | ⟨t, created, t', hentity, ht, hf, hok, ho⟩
      · obtain ⟨lang, h⟩ := ih hold
        refine ⟨lang, h.kept fun hupdates => hfails ?_⟩
        cases call with
        | create => exact hupdates.elim
        | update => exact hupdates.1
        | clone => exact hupdates.elim
      · rcases Call.object?_onTable_cases hf ho with
          ⟨hold, hnamed⟩ | ⟨values, lang, hcall, rfl, -⟩ |
          ⟨ids, values, lang, _, _, hcall, hid, -⟩ |
          ⟨ids, k, original, source, hcall, hcopy, horiginal, hsource, -⟩
        · obtain ⟨lang, h⟩ := ih ((object?_of_table? ht id).trans hold)
          refine ⟨lang, h.kept fun hupdates => ?_⟩
          cases call with
          | create => exact hupdates.elim
          | update now other ids values lang => exact absurd hupdates.2 (hnamed ids values lang rfl)
          | clone => exact hupdates.elim
        · rw [hcall, ← hentity] at hok ⊢
          exact ⟨lang, .created hok⟩
        · rw [hcall, ← hentity] at hok hf ⊢
          obtain ⟨_, -, hpair⟩ := map_eq_ok_iff.mp hf
          obtain ⟨rfl, -⟩ := Prod.mk.inj hpair
          exact ⟨lang, .updated hok hid⟩
        · rw [hcall, ← hentity] at hok ⊢
          obtain ⟨lang, h⟩ := ih ((object?_of_table? ht original).trans hsource)
          exact ⟨lang, .copied h hok horiginal hcopy⟩

section Filled

variable {schema : Schema} (hschema : start.schema? entity = some schema) {field : Text}
  {f : FieldDescriptor} (hfield : schema.field? field = some f) (hrequired : f.required = true)

theorem OutsideDrafts.exists_object {s : Store} {id : Nat} {lang : Text}
    (h : s.OutsideDrafts entity id lang) : ∃ o, s.object? entity id = some o := by
  obtain ⟨state, hstate, -⟩ := h
  cases ht : s.table? entity with
  | none =>
      have htable : s.tableOf entity = .error (.unknownEntity entity) := by rw [tableOf, ht]
      rw [answer?, read, htable] at hstate
      cases hstate
  | some t =>
      rw [answer?_of_table? ht] at hstate
      obtain ⟨o, ho, -⟩ := Option.bind_eq_some_iff.mp hstate
      exact ⟨o, (object?_of_table? ht id).trans ho⟩

/-- What is answered for the state of an object is its state. -/
theorem OutsideDrafts.isDraft_value {s : Store} {id : Nat} {lang : Text}
    (h : s.OutsideDrafts entity id lang) {o : StoredObject} (ho : s.object? entity id = some o) :
    isDraft (o.value "state" lang) = false := by
  obtain ⟨state, hstate, hdraft⟩ := h
  obtain ⟨t, ht, ho⟩ := Option.bind_eq_some_iff.mp ho
  have hne : "state".toList ≠ "id".toList := by decide
  rw [answer?_of_contains ht hne (contains_of_answer? ht hne hstate), ho,
    Option.map_some] at hstate
  obtain rfl := Option.some.inj hstate
  exact hdraft

include hstart hschema hfield hrequired in
/-- **What is seen to in a language is filled there.** -/
theorem Vouched.filled {calls : List Call} (hcalls : ∀ call ∈ calls, call.IsDistinct) {id : Nat}
    {lang : Text} (h : Vouched start entity calls id lang) {o : StoredObject}
    (ho : (start.runCalls calls).object? entity id = some o) : o.Filled lang field := by
  have hreachable : ∀ calls, (start.runCalls calls).Reachable := hstart.runCalls
  have htable : ∀ {calls : List Call} {t : Table},
      (start.runCalls calls).table? entity = some t → t.schema = schema := by
    intro calls t ht
    have ht' := (schema?_runCalls calls start entity).trans hschema
    rw [schema?, ht] at ht'
    exact Option.some.inj ht'
  induction h generalizing o with
  | @created calls now values lang id hok =>
      rw [runCalls_concat] at ho
      have hdistinct : (Assoc.keys values).Nodup :=
        hcalls (.create now entity values lang) (by simp)
      obtain ⟨t, ht, hcheck, rfl⟩ := (hreachable calls).sound.object_of_create hok ho
      obtain rfl := htable ht
      exact StoredObject.filled_newborn
        (nodup_keys_withState (nodup_keys_writable hdistinct t.schema)) hfield hrequired
        (managed_not_mem_withState (by decide) t.schema values)
        (managed_not_mem_withState (by decide) t.schema values) hcheck
  | @updated calls now ids values lang id hok hid =>
      rw [runCalls_concat] at ho
      have hdistinct : (Assoc.keys values).Nodup :=
        hcalls (.update now entity ids values lang) (by simp)
      obtain ⟨t, before, n, ht, hbefore, hcheck, rfl⟩ := object_of_update hok hid ho
      obtain rfl := htable ht
      obtain ⟨c, m, -, hm, -⟩ :=
        ((hreachable calls).sound.tables entity t ht).stamped id before hbefore
      exact StoredObject.filled_change (nodup_keys_writable hdistinct t.schema) hfield hrequired
        ((hreachable calls).wellPlaced ht hbefore)
        (hm.iterate_change_modified t.schema _ lang values _ n) hcheck
  | @translated calls now ids values lang read id _ hok hid hdraft hdraft' ih =>
      have hafter := hdraft'.isDraft_value ho
      rw [runCalls_concat] at ho
      have hdistinct : (Assoc.keys values).Nodup :=
        hcalls (.update now entity ids values lang) (by simp)
      obtain ⟨t, before, n, ht, hbefore, hcheck, rfl⟩ := object_of_update hok hid ho
      obtain rfl := htable ht
      have hobject := (object?_of_table? ht id).trans hbefore
      obtain ⟨c, m, -, hm, -⟩ :=
        ((hreachable calls).sound.tables entity t ht).stamped id before hbefore
      exact (ih (fun call hcall => hcalls call (List.mem_append_left _ hcall)) hobject).change
        (nodup_keys_writable hdistinct t.schema) hfield hrequired
        ((hreachable calls).wellPlaced ht hbefore)
        (hm.iterate_change_modified t.schema _ lang values _ n) hcheck
        (hdraft.isDraft_value hobject) hafter
  | @copied calls now ids copies lang k original id _ hok horiginal hid ih =>
      rw [runCalls_concat] at ho
      obtain ⟨source, hsource, rfl⟩ :=
        (hreachable calls).sound.object_of_clone hok horiginal hid ho
      exact (ih (fun call hcall => hcalls call (List.mem_append_left _ hcall)) hsource).born
        ((hreachable calls).sound.object hsource)
  | @kept calls call lang id hbefore hfails ih =>
      obtain ⟨before, hobject⟩ := hbefore.exists_object hstart
      have hsame : (call.run (start.runCalls calls)).2.object? entity id = some before := by
        by_cases hupdates : call.Updates entity id
        · obtain ⟨e, he⟩ := hfails hupdates
          rcases call.run_cases (start.runCalls calls) with ⟨e', hr⟩ | ⟨_, _, _, -, -, hr⟩
          · rw [hr]
            exact hobject
          · rw [hr] at he
            cases he
        · exact Call.object?_run_of_not_updates hupdates hobject
      rw [runCalls_concat, hsame] at ho
      obtain rfl := Option.some.inj ho
      exact ih (fun call hcall => hcalls call (List.mem_append_left _ hcall)) hobject

end Filled

end Vouched

/-! ## Required fields of every run -/

/-- A store with some entities and no objects. -/
def ofSchemas (defaultLang : Text) (schemas : List Schema) : Store :=
  schemas.foldl (fun s schema => s.register schema) (.empty defaultLang)

theorem ofSchemas_reachable (defaultLang : Text) (schemas : List Schema) :
    (ofSchemas defaultLang schemas).Reachable := by
  unfold ofSchemas
  generalize hs : Store.empty defaultLang = s
  have h : s.Reachable := hs ▸ .empty defaultLang
  clear hs
  induction schemas generalizing s with
  | nil => exact h
  | cons schema schemas ih => exact ih _ (h.register schema)

theorem object?_ofSchemas (defaultLang : Text) (schemas : List Schema) (entity : Text) (id : Nat) :
    (ofSchemas defaultLang schemas).object? entity id = none := by
  unfold ofSchemas
  have hstart : (Store.empty defaultLang).object? entity id = none := rfl
  generalize Store.empty defaultLang = s at hstart ⊢
  induction schemas generalizing s with
  | nil => exact hstart
  | cons schema schemas ih =>
      refine ih _ ?_
      by_cases hentity : entity = schema.name
      · subst hentity
        exact object?_setTable_self schema.name (.empty schema) s id
      · exact (object?_setTable_of_ne hentity (.empty schema) s id).trans hstart

theorem answer?_id {s : Store} {entity : Text} {t : Table} (ht : s.table? entity = some t)
    {id : Nat} {o : StoredObject} (ho : t.object? id = some o) (lang : Text) :
    s.answer? entity id "id" lang = some (.ofNat id) := by
  rw [answer?_of_table? ht, ho]
  rfl

/-- Outside of drafts, a field that is filled is answered for with a value. -/
theorem OutsideDrafts.exists_answer {s : Store} {entity : Text} {schema : Schema}
    (hschema : s.schema? entity = some schema) {field : Text} {f : FieldDescriptor}
    (hfield : schema.field? field = some f) {id : Nat} {lang : Text}
    (hdraft : s.OutsideDrafts entity id lang)
    (hfilled : ∀ o, s.object? entity id = some o → o.Filled lang field) :
    ∃ v, s.answer? entity id field lang = some v ∧ isBlank v = false := by
  obtain ⟨t, ht, rfl⟩ := Option.map_eq_some_iff.mp hschema
  obtain ⟨o, ho⟩ := hdraft.exists_object
  have ho' := (object?_of_table? ht id).symm.trans ho
  by_cases hid : field = "id".toList
  · exact ⟨.ofNat id, by rw [hid, answer?_id ht ho'], rfl⟩
  · have hcontains : t.schema.contains field = true := by rw [Schema.contains, hfield]; rfl
    refine ⟨o.value field lang, ?_, hfilled o ho (hdraft.isDraft_value ho)⟩
    rw [answer?_of_contains ht hid hcontains, ho', Option.map_some]

/-- **Required fields along every run.** Make some creations, updates and copies on some entities
without objects. Every object is then seen to in some language. If it is no draft, as a language
reads it, then this language reads a value for every required field in two cases: the object is
seen to in this language, or neither the field nor the state depends on the language. -/
theorem mandatory_of_run {defaultLang : Text} {schemas : List Schema} {calls : List Call}
    (hcalls : ∀ call ∈ calls, call.IsDistinct) {s : Store}
    (hs : (ofSchemas defaultLang schemas).runCalls calls = s) :
    (∀ entity id o, s.object? entity id = some o →
      ∃ lang, Vouched (ofSchemas defaultLang schemas) entity calls id lang) ∧
    ∀ entity schema id field f lang, s.schema? entity = some schema →
      schema.field? field = some f → f.required = true → s.OutsideDrafts entity id lang →
      (Vouched (ofSchemas defaultLang schemas) entity calls id lang ∨
        (schema.isMultilang field = false ∧ schema.isMultilang "state" = false)) →
      ∃ v, s.answer? entity id field lang = some v ∧ isBlank v = false := by
  subst hs
  have hstart := ofSchemas_reachable defaultLang schemas
  have hempty := object?_ofSchemas defaultLang schemas
  refine ⟨fun entity id o => exists_vouched (hempty entity) calls, ?_⟩
  intro entity schema id field f lang hschema hfield hrequired hdraft hcase
  have hstartSchema := (schema?_runCalls calls _ entity).symm.trans hschema
  refine hdraft.exists_answer hschema hfield fun o ho => ?_
  rcases hcase with hvouched | ⟨hfixed, hfixedState⟩
  · exact hvouched.filled hstart hstartSchema hfield hrequired hcalls ho
  · obtain ⟨written, hvouched⟩ := exists_vouched (hempty entity) calls ho
    obtain ⟨t, ht, ho'⟩ := Option.bind_eq_some_iff.mp ho
    have hplaced := (hstart.runCalls calls).wellPlaced ht ho'
    obtain rfl : t.schema = schema := by
      rw [schema?, ht] at hschema
      exact Option.some.inj hschema
    exact (hvouched.filled hstart hstartSchema hfield hrequired hcalls ho).of_lang hplaced hfixed
      hfixedState lang

/-- A page is made, and then a draft in another language. -/
def draftedPages : List Call := [
  .create 50 "page" [("title", .str "a"), ("summary", .str "hello")] "en",
  .update 60 "page" [1] [("summary", .str "bonjour")] "fr",
  .create 70 "page" [("state", .str "draft")] "fr"]

theorem draftedPages_mandatory_of_run :
    (∀ call ∈ draftedPages, call.IsDistinct) ∧
      Vouched (ofSchemas "en" [pageSchema]) "page" draftedPages 1 "en" ∧
      ((ofSchemas "en" [pageSchema]).runCalls draftedPages).OutsideDrafts "page" 1 "en" ∧
      ∃ v, ((ofSchemas "en" [pageSchema]).runCalls draftedPages).answer? "page" 1 "summary" "en" =
        some v ∧ isBlank v = false :=
  have hdistinct : ∀ call ∈ draftedPages, call.IsDistinct := by decide
  have hmade : Vouched (ofSchemas "en" [pageSchema]) "page" (draftedPages.take 1) 1 "en" :=
    @Vouched.created _ _ [] _ _ _ _ rfl
  have htranslated : Vouched (ofSchemas "en" [pageSchema]) "page" (draftedPages.take 2) 1 "en" :=
    hmade.translated rfl (List.mem_singleton.mpr rfl) ⟨.str "instance", rfl, rfl⟩
      ⟨.str "instance", rfl, rfl⟩
  have hvouched : Vouched (ofSchemas "en" [pageSchema]) "page" draftedPages 1 "en" :=
    htranslated.kept fun h => h.elim
  have hdraft : ((ofSchemas "en" [pageSchema]).runCalls draftedPages).OutsideDrafts "page" 1
      "en" := ⟨.str "instance", rfl, rfl⟩
  ⟨hdistinct, hvouched, hdraft,
    (mandatory_of_run hdistinct rfl).2 "page" pageSchema 1 "summary" _ "en" rfl rfl rfl hdraft
      (.inl hvouched)⟩

/-- Outside of drafts every required field has a value, both read in the default language. -/
def Mandatory (s : Store) : Prop :=
  ∀ entity schema id field f, s.schema? entity = some schema → schema.field? field = some f →
    f.required = true → s.OutsideDrafts entity id s.defaultLang →
    ∃ v, s.answer? entity id field s.defaultLang = some v ∧ isBlank v = false

/-- A page that is made in another language has no summary in the default one. -/
theorem not_mandatory_of_create :
    ¬ ((ofSchemas "en" [pageSchema]).runCalls
      [.create 50 "page" [("title", .str "a"), ("summary", .str "bonjour")] "fr"]).Mandatory := by
  intro h
  obtain ⟨v, hv, hblank⟩ :=
    h "page" pageSchema 1 "summary" _ rfl rfl rfl ⟨.str "instance", rfl, rfl⟩
  obtain rfl : Json.null = v := Option.some.inj hv
  cases hblank

end Store

end HttpExchange
