import HttpExchange.Proofs.Store.Table
import HttpExchange.Store.Interface

/-!
# Calls of a store

The writes of a store as data, so that a run of a store is a list of calls. A
call first moves the clock; it then either fails, and leaves every table as it
was, or replaces the table of its entity by what the call makes of it.

## Main definitions

* `Call`, `Call.run` — a write, and what it does to anything that takes writes.
* `Call.onTable` — what a call makes of the table of its entity.
* `Reachable` — the stores that registrations and calls lead to.

## Main results

* `Call.run_cases` — the two things that a call can do to a store.
* `Call.onTable_cases` — the three things that a call can do to a table.
* `Call.object?_onTable_cases` — where every object comes from that is there after a call.
-/

namespace HttpExchange.Store

/-- A write, with what the wall clock says. -/
inductive Call where
  | create (now : Int) (entity : Text) (values : Members) (lang : Text)
  | update (now : Int) (entity : Text) (ids : List Nat) (values : Members) (lang : Text)
  | clone (now : Int) (entity : Text) (ids : List Nat)
  deriving DecidableEq

namespace Call

/-- What the wall clock says. -/
def now : Call → Int
  | .create now .. | .update now .. | .clone now .. => now

/-- The entity that is written to. -/
def entity : Call → Text
  | .create _ entity .. | .update _ entity .. | .clone _ entity .. => entity

/-- Makes a call. It gives the numbers of the objects that are new. -/
def run {S : Type} [ObjectStore S] : Call → S → Except StoreError (List Nat) × S
  | .create now entity values lang, s =>
    let (r, s) := ObjectStore.create now entity values lang s
    (r.map fun id => [id], s)
  | .update now entity ids values lang, s =>
    let (r, s) := ObjectStore.update now entity ids values lang s
    (r.map fun _ => [], s)
  | .clone now entity ids, s => ObjectStore.cloneObjects now entity ids s

/-- What a call makes of the table of its entity, at the time `now` of the store. -/
def onTable (now : Int) (defaultLang : Text) (t : Table) :
    Call → Except StoreError (List Nat × Table)
  | .create _ _ values lang =>
    (createIn now defaultLang lang values t).map fun (id, t) => ([id], t)
  | .update _ entity ids values lang =>
    (updateIn now defaultLang entity lang ids values t).map fun t => ([], t)
  | .clone _ entity ids => cloneIn now entity ids t

end Call

/-! ## What a call does -/

@[simp] theorem table?_tick (now : Int) (entity : Text) (s : Store) :
    (s.tick now).table? entity = s.table? entity := rfl

theorem clock_lt_tick (now : Int) (s : Store) : s.clock < (s.tick now).clock := by
  show s.clock < max now (s.clock + 1)
  omega

theorem table?_setTable (entity other : Text) (t : Table) (s : Store) :
    (s.setTable entity t).table? other = if other = entity then some t else s.table? other :=
  Assoc.get?_set entity other t s.tables

theorem setTable_setTable (entity : Text) (a b : Table) (s : Store) :
    (s.setTable entity a).setTable entity b = s.setTable entity b :=
  congrArg (fun tables => { s with tables }) (Assoc.set_set entity a b s.tables)

section Write

variable {α : Type} (now : Int) (entity : Text) (f : Store → Table → Except StoreError (α × Table))
  (s : Store)

theorem write_of_none (h : s.table? entity = none) :
    s.write now entity f = (.error (.unknownEntity entity), s.tick now) := by
  have ht : (s.tick now).tableOf entity = .error (.unknownEntity entity) := by
    rw [tableOf, table?_tick, h]
  simp only [write, ht, Except.bind]

theorem write_of_error {t : Table} {e : StoreError} (h : s.table? entity = some t)
    (hf : f (s.tick now) t = .error e) : s.write now entity f = (.error e, s.tick now) := by
  have ht : (s.tick now).tableOf entity = .ok t := by rw [tableOf, table?_tick, h]
  simp only [write, ht, Except.bind, hf]

theorem write_of_ok {t t' : Table} {a : α} (h : s.table? entity = some t)
    (hf : f (s.tick now) t = .ok (a, t')) :
    s.write now entity f = (.ok a, (s.tick now).setTable entity t') := by
  have ht : (s.tick now).tableOf entity = .ok t := by rw [tableOf, table?_tick, h]
  simp only [write, ht, Except.bind, hf]

/-- A write fails and moves the clock only, or it replaces one table. -/
theorem write_cases :
    (∃ e, s.write now entity f = (.error e, s.tick now)) ∨
    ∃ t a t', s.table? entity = some t ∧ f (s.tick now) t = .ok (a, t') ∧
      s.write now entity f = (.ok a, (s.tick now).setTable entity t') := by
  cases h : s.table? entity with
  | none => exact Or.inl ⟨_, write_of_none now entity f s h⟩
  | some t =>
      cases hf : f (s.tick now) t with
      | error e => exact Or.inl ⟨e, write_of_error now entity f s h hf⟩
      | ok r => exact Or.inr ⟨t, r.1, r.2, rfl, hf, write_of_ok now entity f s h hf⟩

end Write

/-- A creation succeeds when the values lack no required field. -/
theorem create_of_table (now : Int) {entity lang : Text} {values : Members} {s : Store} {t : Table}
    (ht : s.table? entity = some t)
    (hvalues : missing? t.schema (withState (writable t.schema values)) lang .empty = none) :
    s.create now entity values lang = (.ok t.nextId, (s.tick now).setTable entity
      (t.addAll [.newborn t.schema s.defaultLang lang (withState (writable t.schema values))
        (s.tick now).clock])) :=
  write_of_ok now entity _ s ht (createIn_eq_ok_iff.mpr ⟨hvalues, rfl, rfl⟩)

/-- An update fails and moves the clock only, or it changes its targets. -/
theorem update_cases (now : Int) (entity : Text) (ids : List Nat) (values : Members) (lang : Text)
    (s : Store) :
    (∃ e, s.update now entity ids values lang = (.error e, s.tick now)) ∨
    ∃ t, s.table? entity = some t ∧
      (∀ id ∈ ids, Updatable t.schema lang (writable t.schema values) t id) ∧
      s.update now entity ids values lang = (.ok (), (s.tick now).setTable entity
        (t.modifyAll ids (.change t.schema s.defaultLang lang (writable t.schema values)
          (s.tick now).clock))) := by
  rcases write_cases now entity (fun s t =>
    (updateIn s.clock s.defaultLang entity lang ids values t).map fun t => ((), t)) s with
    ⟨e, h⟩ | ⟨t, ⟨⟩, t', ht, hf, h⟩
  · exact Or.inl ⟨e, h⟩
  · obtain ⟨t'', hupdate, hpair⟩ := map_eq_ok_iff.mp hf
    obtain ⟨-, rfl⟩ := Prod.mk.inj hpair
    obtain ⟨htargets, rfl⟩ := updateIn_eq_ok_iff.mp hupdate
    exact Or.inr ⟨t, ht, htargets, h⟩

/-- An update succeeds when its targets are there and would lack no required field. -/
theorem update_of_table (now : Int) {entity lang : Text} {ids : List Nat} {values : Members}
    {s : Store} {t : Table} (ht : s.table? entity = some t)
    (hids : ∀ id ∈ ids, Updatable t.schema lang (writable t.schema values) t id) :
    s.update now entity ids values lang = (.ok (), (s.tick now).setTable entity
      (t.modifyAll ids (.change t.schema s.defaultLang lang (writable t.schema values)
        (s.tick now).clock))) := by
  refine write_of_ok now entity _ s ht (map_eq_ok_iff.mpr ⟨_, ?_, rfl⟩)
  exact updateIn_eq_ok_iff.mpr ⟨hids, rfl⟩

/-- A call fails and moves the clock only, or it replaces the table of its entity. -/
theorem Call.run_cases (call : Call) (s : Store) :
    (∃ e, call.run s = (.error e, s.tick call.now)) ∨
    ∃ t ids t', s.table? call.entity = some t ∧
      call.onTable (s.tick call.now).clock s.defaultLang t = .ok (ids, t') ∧
      call.run s = (.ok ids, (s.tick call.now).setTable call.entity t') := by
  cases call with
  | create now entity values lang =>
      rcases write_cases now entity
        (fun s t => createIn s.clock s.defaultLang lang values t) s with
        ⟨e, h⟩ | ⟨t, id, t', ht, hf, h⟩
      · refine Or.inl ⟨e, ?_⟩
        simp only [Call.run, ObjectStore.create, Store.create, h]
        rfl
      · refine Or.inr ⟨t, [id], t', ht, ?_, ?_⟩
        · exact congrArg (Except.map fun (id, t) => ([id], t)) hf
        · simp only [Call.run, ObjectStore.create, Store.create, h]
          rfl
  | update now entity ids values lang =>
      rcases update_cases now entity ids values lang s with ⟨e, h⟩ | ⟨t, ht, htargets, h⟩
      · refine Or.inl ⟨e, ?_⟩
        simp only [Call.run, ObjectStore.update, h]
        rfl
      · refine Or.inr ⟨t, [], t.modifyAll ids (.change t.schema s.defaultLang lang
          (writable t.schema values) (s.tick now).clock), ht, ?_, ?_⟩
        · exact map_eq_ok_iff.mpr ⟨_, updateIn_eq_ok_iff.mpr ⟨htargets, rfl⟩, rfl⟩
        · simp only [Call.run, ObjectStore.update, h]
          rfl
  | clone now entity ids => exact write_cases now entity (fun s t => cloneIn s.clock entity ids t) s

/-- What a successful call makes of a table. -/
theorem Call.onTable_cases {call : Call} {now : Int} {defaultLang : Text} {t t' : Table}
    {created : List Nat} (h : call.onTable now defaultLang t = .ok (created, t')) :
    (∃ values lang, call = .create call.now call.entity values lang ∧ created = [t.nextId] ∧
      missing? t.schema (withState (writable t.schema values)) lang .empty = none ∧
      t' = t.addAll [.newborn t.schema defaultLang lang
        (withState (writable t.schema values)) now]) ∨
    (∃ ids values lang, call = .update call.now call.entity ids values lang ∧ created = [] ∧
      (∀ id ∈ ids, Updatable t.schema lang (writable t.schema values) t id) ∧
      t' = t.modifyAll ids
        (.change t.schema defaultLang lang (writable t.schema values) now)) ∨
    (∃ (ids : List Nat) (sources : List StoredObject), call = .clone call.now call.entity ids ∧
      ids.map t.object? = sources.map some ∧
      created = List.range' t.nextId sources.length ∧
      t' = t.addAll (sources.map (·.born now))) := by
  cases call with
  | create _ entity values lang =>
      obtain ⟨⟨id, t''⟩, hcreate, hr⟩ := map_eq_ok_iff.mp h
      obtain ⟨hcheck, rfl, rfl⟩ := createIn_eq_ok_iff.mp hcreate
      obtain ⟨rfl, rfl⟩ := Prod.mk.inj hr
      exact Or.inl ⟨values, lang, rfl, rfl, hcheck, rfl⟩
  | update _ entity ids values lang =>
      obtain ⟨t'', hupdate, hr⟩ := map_eq_ok_iff.mp h
      obtain ⟨htargets, rfl⟩ := updateIn_eq_ok_iff.mp hupdate
      obtain ⟨rfl, rfl⟩ := Prod.mk.inj hr
      exact Or.inr (Or.inl ⟨ids, values, lang, rfl, rfl, htargets, rfl⟩)
  | clone _ entity ids =>
      obtain ⟨sources, hsources, rfl, rfl⟩ := cloneIn_eq_ok_iff.mp h
      exact Or.inr (Or.inr ⟨ids, sources, rfl, hsources, rfl, rfl⟩)

/-- A call leaves the schema of a table alone. -/
theorem Call.schema_onTable {call : Call} {now : Int} {defaultLang : Text} {t t' : Table}
    {created : List Nat} (h : call.onTable now defaultLang t = .ok (created, t')) :
    t'.schema = t.schema := by
  rcases Call.onTable_cases h with
    ⟨_, _, -, -, -, rfl⟩ | ⟨_, _, _, -, -, -, rfl⟩ | ⟨_, _, -, -, -, rfl⟩
  · exact Table.schema_addAll _ t
  · exact Table.schema_modifyAll _ _ t
  · exact Table.schema_addAll _ t

/-- Where an object of the table that a successful call leaves comes from: it was there before, or
it is new, or the call changed it, perhaps several times, or it is a copy. -/
theorem Call.object?_onTable_cases {call : Call} {now : Int} {defaultLang : Text} {t t' : Table}
    {created : List Nat} (h : call.onTable now defaultLang t = .ok (created, t')) {id : Nat}
    {o : StoredObject} (ho : t'.object? id = some o) :
    (t.object? id = some o ∧ ∀ ids values lang,
      call = .update call.now call.entity ids values lang → id ∉ ids) ∨
    (∃ values lang, call = .create call.now call.entity values lang ∧ created = [id] ∧
      missing? t.schema (withState (writable t.schema values)) lang .empty = none ∧
      o = .newborn t.schema defaultLang lang (withState (writable t.schema values)) now) ∨
    (∃ ids values lang before n, call = .update call.now call.entity ids values lang ∧
      id ∈ ids ∧ t.object? id = some before ∧
      missing? t.schema (writable t.schema values) lang before = none ∧
      o = (StoredObject.change t.schema defaultLang lang (writable t.schema values)
        now)^[n + 1] before) ∨
    (∃ (ids : List Nat) (k original : Nat) (source : StoredObject),
      call = .clone call.now call.entity ids ∧ created[k]? = some id ∧ ids[k]? = some original ∧
      t.object? original = some source ∧ o = source.born now) := by
  rcases Call.onTable_cases h with
    ⟨values, lang, hcall, rfl, hcheck, rfl⟩ | ⟨ids, values, lang, hcall, rfl, htargets, rfl⟩ |
    ⟨ids, sources, hcall, hsources, rfl, rfl⟩
  · rcases Table.object?_addAll_cases ho with hold | ⟨k, hid, hk⟩
    · refine Or.inl ⟨hold, ?_⟩
      intro _ _ _ hupdate
      rw [hcall] at hupdate
      cases hupdate
    · obtain ⟨hlt, hk⟩ := List.getElem?_eq_some_iff.mp hk
      obtain rfl : k = 0 := Nat.lt_one_iff.mp hlt
      rw [hid]
      exact Or.inr (Or.inl ⟨values, lang, hcall, rfl, hcheck, hk.symm⟩)
  · rw [Table.object?_modifyAll] at ho
    obtain ⟨before, hbefore, rfl⟩ := Option.map_eq_some_iff.mp ho
    by_cases hid : id ∈ ids
    · obtain ⟨o', ho', hcheck⟩ := htargets id hid
      obtain rfl := Option.some.inj (hbefore.symm.trans ho')
      obtain ⟨n, hn⟩ : ∃ n, ids.count id = n + 1 :=
        Nat.exists_eq_succ_of_ne_zero (Nat.ne_of_gt (List.count_pos_iff.mpr hid))
      rw [hn]
      exact Or.inr (Or.inr (Or.inl
        ⟨ids, values, lang, before, n, hcall, hid, hbefore, hcheck, rfl⟩))
    · rw [List.count_eq_zero_of_not_mem hid]
      refine Or.inl ⟨hbefore, ?_⟩
      intro ids' values' lang' hcall'
      rw [hcall] at hcall'
      cases hcall'
      exact hid
  · rcases Table.object?_addAll_cases ho with hold | ⟨k, hid, hk⟩
    · refine Or.inl ⟨hold, ?_⟩
      intro _ _ _ hupdate
      rw [hcall] at hupdate
      cases hupdate
    · rw [List.getElem?_map] at hk
      obtain ⟨source, hsource, rfl⟩ := Option.map_eq_some_iff.mp hk
      have hlt : k < sources.length := (List.getElem?_eq_some_iff.mp hsource).1
      have hfound : (ids.map t.object?)[k]? = some (some source) := by
        rw [hsources, List.getElem?_map, hsource, Option.map_some]
      rw [List.getElem?_map] at hfound
      obtain ⟨original, horiginal, hsource⟩ := Option.map_eq_some_iff.mp hfound
      refine Or.inr (Or.inr (Or.inr ⟨ids, k, original, source, hcall, ?_, horiginal, hsource, rfl⟩))
      rw [List.getElem?_range' hlt, Nat.one_mul, hid]

/-! ## Stores that occur -/

/-- The stores that registrations and calls lead to. -/
inductive Reachable : Store → Prop
  | empty (defaultLang : Text) : Reachable (.empty defaultLang)
  | register (schema : Schema) {s : Store} : Reachable s → Reachable (s.register schema)
  | call (call : Call) {s : Store} : Reachable s → Reachable (call.run s).2

/-- No call changes the default language. -/
theorem Call.defaultLang_run (call : Call) (s : Store) :
    (call.run s).2.defaultLang = s.defaultLang := by
  rcases call.run_cases s with ⟨e, hr⟩ | ⟨t, ids, t', ht, hf, hr⟩
  · rw [hr]
    rfl
  · rw [hr]
    rfl

/-- Makes some calls one after the other. -/
def runCalls (calls : List Call) (s : Store) : Store :=
  calls.foldl (fun s call => (call.run s).2) s

theorem Reachable.runCalls {s : Store} (h : s.Reachable) (calls : List Call) :
    (s.runCalls calls).Reachable := by
  induction calls generalizing s with
  | nil => exact h
  | cons call calls ih => exact ih (h.call call)

end HttpExchange.Store
