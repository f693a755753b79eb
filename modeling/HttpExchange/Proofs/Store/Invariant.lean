import HttpExchange.Proofs.Store.Call

/-!
# What every run of a store keeps

The numbers of a table count from one without a gap, and the stamps of every
object lie within the clock. Both are facts about one table at one time; a call
carries them from the table before it to the table after it, because it moves
the clock before it stamps anything and takes numbers only once nothing can fail
any more. Everything said about runs follows by induction over the calls.

## Main results

* `Table.Sound.onTable` — a call keeps a table sound.
* `Reachable.sound` — every store that occurs is sound.
* `Reachable.run_sound` — numbers, clock and stamps along every run.
-/

namespace HttpExchange

open Store

/-! ## Values from outside and managed fields -/

theorem get?_writable (schema : Schema) (field : Text) (values : Members) :
    Assoc.get? field (writable schema values) =
      if schema.isWritable field then Assoc.get? field values else none :=
  Assoc.get?_filter (schema.isWritable ·) field values

theorem managed_not_mem_writable {field : Text} (h : field ∈ Schema.managed) (schema : Schema)
    (values : Members) : field ∉ Assoc.keys (writable schema values) := by
  rw [← Assoc.get?_eq_none_iff, get?_writable]
  have hmanaged : schema.isWritable field = false := by
    simp [Schema.isWritable, h]
  rw [hmanaged]
  rfl

theorem managed_not_mem_withState {field : Text} (h : field ∈ Schema.managed) (schema : Schema)
    (values : Members) : field ∉ Assoc.keys (withState (writable schema values)) := by
  have hwritable := managed_not_mem_writable h schema values
  unfold withState
  split
  · exact hwritable
  · have hstate : field ≠ "state".toList := by
      rintro rfl
      revert h
      decide
    rw [← Assoc.get?_eq_none_iff] at hwritable ⊢
    rw [Assoc.get?_set_of_ne hstate, hwritable]

private theorem created_managed : "created".toList ∈ Schema.managed := by decide

private theorem modified_managed : "modified".toList ∈ Schema.managed := by decide

namespace StoredObject

section Change

variable (schema : Schema) (defaultLang lang : Text) (values : Members) (now : Int)

theorem Holds.change_created {c : Int} {o : StoredObject} (h : o.Holds "created" c) :
    (o.change schema defaultLang lang (writable schema values) now).Holds "created" c :=
  (h.writeAll schema defaultLang lang
    (managed_not_mem_writable created_managed schema values)).touch_of_ne (by decide) now

theorem Holds.change_modified {m : Int} {o : StoredObject} (h : o.Holds "modified" m) :
    (o.change schema defaultLang lang (writable schema values) now).Holds "modified" now :=
  (h.writeAll schema defaultLang lang
    (managed_not_mem_writable modified_managed schema values)).touch now

theorem Stamped.change {o : StoredObject} (h : o.Stamped now) :
    (o.change schema defaultLang lang (writable schema values) now).Stamped now := by
  obtain ⟨c, m, hc, hm, hpos, hcm, hmn⟩ := h
  exact ⟨c, now, hc.change_created schema defaultLang lang values now,
    hm.change_modified schema defaultLang lang values now, hpos, Int.le_trans hcm hmn,
    Int.le_refl now⟩

/-- An object that is changed several times in one update is changed as if once. -/
theorem Holds.iterate_change_created {c : Int} {o : StoredObject} (h : o.Holds "created" c)
    (n : Nat) :
    ((StoredObject.change schema defaultLang lang (writable schema values) now)^[n] o).Holds
      "created" c := by
  induction n with
  | zero => exact h
  | succ n ih =>
      rw [Function.iterate_succ_apply']
      exact ih.change_created schema defaultLang lang values now

theorem Holds.iterate_change_modified {m : Int} {o : StoredObject} (h : o.Holds "modified" m)
    (n : Nat) :
    ((StoredObject.change schema defaultLang lang (writable schema values) now)^[n + 1] o).Holds
      "modified" now := by
  induction n with
  | zero => exact h.change_modified schema defaultLang lang values now
  | succ n ih =>
      rw [Function.iterate_succ_apply']
      exact ih.change_modified schema defaultLang lang values now

theorem Stamped.iterate_change {o : StoredObject} (h : o.Stamped now) (n : Nat) :
    ((StoredObject.change schema defaultLang lang (writable schema values) now)^[n] o).Stamped
      now := by
  induction n with
  | zero => exact h
  | succ n ih =>
      rw [Function.iterate_succ_apply']
      exact ih.change schema defaultLang lang values now

theorem Stamped.newborn (hpos : 0 < now) :
    (StoredObject.newborn schema defaultLang lang (withState (writable schema values)) now).Stamped
      now := by
  obtain ⟨hc, hm⟩ := born_holds (localValue?_empty "created") (localValue?_empty "modified") now
  exact stamped_of_holds hpos
    (hc.writeAll schema defaultLang lang
      (managed_not_mem_withState created_managed schema values))
    (hm.writeAll schema defaultLang lang
      (managed_not_mem_withState modified_managed schema values))

end Change

end StoredObject

/-! ## Tables -/

namespace Table

/-- The numbers count from one without a gap, and all stamps lie within the clock. -/
structure Sound (clock : Int) (t : Table) : Prop where
  numbered : t.numbers = List.range' 1 t.objects.length
  next : t.nextId = t.objects.length + 1
  stamped : ∀ id o, t.object? id = some o → o.Stamped clock

theorem Sound.mono {a b : Int} {t : Table} (h : t.Sound a) (hab : a ≤ b) : t.Sound b where
  numbered := h.numbered
  next := h.next
  stamped := fun id o ho => (h.stamped id o ho).mono hab

theorem sound_empty (clock : Int) (schema : Schema) : (Table.empty schema).Sound clock where
  numbered := rfl
  next := rfl
  stamped := by
    intro id o ho
    cases ho

/-- The number that comes next is not in use. -/
theorem Sound.not_mem_numbers {clock : Int} {t : Table} (h : t.Sound clock) {id : Nat}
    (hid : t.nextId ≤ id) : id ∉ t.numbers := by
  rw [h.numbered, List.mem_range'_1]
  have := h.next
  omega

/-- A table stays sound when objects stamped by the present clock are added. -/
theorem Sound.addAll {now : Int} {t : Table} (h : t.Sound now) {os : List StoredObject}
    (hos : ∀ o ∈ os, o.Stamped now) : (t.addAll os).Sound now := by
  have hlength : (t.addAll os).objects.length = t.objects.length + os.length := by
    rw [objects_addAll, List.length_append, List.length_zip, List.length_range', Nat.min_self]
  refine ⟨?_, ?_, ?_⟩
  · rw [numbers_addAll, h.numbered, h.next, hlength, Nat.add_comm t.objects.length 1,
      List.range'_append_1]
  · rw [nextId_addAll, h.next, hlength]
    omega
  · intro id o ho
    rcases object?_addAll_cases ho with hold | ⟨k, -, hnew⟩
    · exact h.stamped id o hold
    · exact hos o (List.mem_of_getElem? hnew)

theorem Sound.modifyAll {now : Int} {t : Table} (h : t.Sound now) (ids : List Nat)
    {f : StoredObject → StoredObject}
    (hf : ∀ (o : StoredObject) (n : Nat), o.Stamped now → (f^[n] o).Stamped now) :
    (t.modifyAll ids f).Sound now := by
  have hlength : (t.modifyAll ids f).objects.length = t.objects.length := by
    have hnumbers := congrArg List.length (numbers_modifyAll ids f t)
    simpa only [numbers, List.length_map] using hnumbers
  refine ⟨?_, ?_, ?_⟩
  · rw [numbers_modifyAll, h.numbered, hlength]
  · rw [nextId_modifyAll, h.next, hlength]
  · intro id o ho
    rw [object?_modifyAll] at ho
    obtain ⟨before, hbefore, rfl⟩ := Option.map_eq_some_iff.mp ho
    exact hf before _ (h.stamped id before hbefore)

/-- The step of the invariant: a call that succeeds after the clock has moved. -/
theorem Sound.onTable {clock now : Int} {defaultLang : Text} {call : Call} {t t' : Table}
    {created : List Nat} (ht : t.Sound clock) (hstarted : 0 ≤ clock) (hlt : clock < now)
    (h : call.onTable now defaultLang t = .ok (created, t')) : t'.Sound now := by
  have hpos : 0 < now := Int.lt_of_le_of_lt hstarted hlt
  have hnow : t.Sound now := ht.mono (Int.le_of_lt hlt)
  rcases Call.onTable_cases h with
    ⟨values, lang, -, -, -, rfl⟩ | ⟨ids, values, lang, -, -, -, rfl⟩ |
    ⟨ids, sources, -, hsources, -, rfl⟩
  · apply hnow.addAll
    intro o ho
    rw [List.mem_singleton.mp ho]
    exact StoredObject.Stamped.newborn t.schema defaultLang lang values now hpos
  · exact hnow.modifyAll ids fun o n ho =>
      ho.iterate_change t.schema defaultLang lang values now n
  · apply hnow.addAll
    intro o ho
    obtain ⟨source, hsource, rfl⟩ := List.mem_map.mp ho
    have hfound : some source ∈ ids.map t.object? := hsources ▸ List.mem_map_of_mem hsource
    obtain ⟨id, -, hid⟩ := List.mem_map.mp hfound
    exact (ht.stamped id source hid).born hpos

/-- The numbers that a call gives are the next ones; they were free and are in use now. -/
theorem Sound.onTable_fresh {clock now : Int} {defaultLang : Text} {call : Call} {t t' : Table}
    {created : List Nat} (ht : t.Sound clock)
    (h : call.onTable now defaultLang t = .ok (created, t')) :
    created = List.range' t.nextId created.length ∧ t'.numbers = t.numbers ++ created ∧
      ∀ id ∈ created, id ∉ t.numbers := by
  have hnew : ∀ n, ∀ id ∈ List.range' t.nextId n, id ∉ t.numbers := fun n id hid =>
    ht.not_mem_numbers (List.mem_range'_1.mp hid).1
  rcases Call.onTable_cases h with
    ⟨values, lang, -, rfl, -, rfl⟩ | ⟨ids, values, lang, -, rfl, -, rfl⟩ |
    ⟨ids, sources, -, -, rfl, rfl⟩
  · exact ⟨rfl, numbers_addAll _ t, hnew 1⟩
  · exact ⟨rfl, by rw [numbers_modifyAll, List.append_nil], hnew 0⟩
  · refine ⟨by rw [List.length_range'], ?_, hnew sources.length⟩
    rw [numbers_addAll, List.length_map]

/-- Whatever values a call submits, the objects that are there keep their stamp of creation. -/
theorem onTable_created {now : Int} {defaultLang : Text} {call : Call} {t t' : Table}
    {created : List Nat} (h : call.onTable now defaultLang t = .ok (created, t')) {id : Nat}
    {o : StoredObject} {c : Int} (ho : t.object? id = some o) (hc : o.Holds "created" c) :
    ∃ o', t'.object? id = some o' ∧ o'.Holds "created" c := by
  rcases Call.onTable_cases h with
    ⟨values, lang, -, -, -, rfl⟩ | ⟨ids, values, lang, -, -, -, rfl⟩ | ⟨ids, sources, -, -, -, rfl⟩
  · exact ⟨o, object?_addAll_of_some ho, hc⟩
  · refine ⟨_, ?_, hc.iterate_change_created t.schema defaultLang lang values now (ids.count id)⟩
    rw [object?_modifyAll, ho, Option.map_some]
  · exact ⟨o, object?_addAll_of_some ho, hc⟩

/-- An update stamps every target with the present time. -/
theorem Sound.updateIn_modified {clock now : Int} {defaultLang entity lang : Text}
    {ids : List Nat} {values : Members} {t t' : Table} (ht : t.Sound clock)
    (h : updateIn now defaultLang entity lang ids values t = .ok t') {id : Nat}
    (hid : id ∈ ids) : ∃ o, t'.object? id = some o ∧ o.Holds "modified" now := by
  obtain ⟨htargets, rfl⟩ := updateIn_eq_ok_iff.mp h
  obtain ⟨o, ho, -⟩ := htargets id hid
  obtain ⟨c, m, -, hm, -, -, -⟩ := ht.stamped id o ho
  obtain ⟨n, hn⟩ : ∃ n, ids.count id = n + 1 :=
    Nat.exists_eq_succ_of_ne_zero (Nat.ne_of_gt (List.count_pos_iff.mpr hid))
  refine ⟨_, by rw [object?_modifyAll, ho, Option.map_some, hn], ?_⟩
  exact StoredObject.Holds.iterate_change_modified t.schema defaultLang lang values now hm n

end Table

/-! ## Stores -/

namespace Store

/-- The object of a number of an entity. -/
def object? (entity : Text) (id : Nat) (s : Store) : Option StoredObject :=
  (s.table? entity).bind (·.object? id)

/-- The fields that hold stamps. -/
def stampFields : List Text := ["created", "modified"]

/-- The clock has not gone back behind its start, and every table is sound at the time it shows. -/
structure Sound (s : Store) : Prop where
  started : 0 ≤ s.clock
  tables : ∀ entity t, s.table? entity = some t → t.Sound s.clock

theorem Sound.tick {s : Store} (h : s.Sound) (now : Int) : (s.tick now).Sound where
  started := Int.le_trans h.started (Int.le_of_lt (clock_lt_tick now s))
  tables := fun entity t ht =>
    (h.tables entity t ht).mono (Int.le_of_lt (clock_lt_tick now s))

theorem Sound.setTable {s : Store} (h : s.Sound) (entity : Text) {t : Table}
    (ht : t.Sound s.clock) : (s.setTable entity t).Sound := by
  refine ⟨h.started, ?_⟩
  intro other t' ht'
  rw [table?_setTable] at ht'
  split at ht'
  · obtain rfl := Option.some.inj ht'
    exact ht
  · exact h.tables other t' ht'

theorem Sound.call {s : Store} (h : s.Sound) (call : Call) : (call.run s).2.Sound := by
  rcases call.run_cases s with ⟨e, hr⟩ | ⟨t, created, t', ht, hf, hr⟩
  · rw [hr]
    exact h.tick call.now
  · rw [hr]
    exact (h.tick call.now).setTable call.entity
      ((h.tables call.entity t ht).onTable h.started (clock_lt_tick call.now s) hf)

theorem Reachable.sound {s : Store} (h : s.Reachable) : s.Sound := by
  induction h with
  | empty defaultLang =>
      refine ⟨Int.le_refl 0, ?_⟩
      intro entity t ht
      cases ht
  | register schema _ ih => exact ih.setTable schema.name (Table.sound_empty _ schema)
  | call call _ ih => exact ih.call call

theorem Sound.object {s : Store} (h : s.Sound) {entity : Text} {id : Nat} {o : StoredObject}
    (ho : s.object? entity id = some o) : o.Stamped s.clock := by
  obtain ⟨t, ht, hid⟩ := Option.bind_eq_some_iff.mp ho
  exact (h.tables entity t ht).stamped id o hid

/-- Every stamp in a sound store lies within its clock. -/
theorem Sound.stamp_le {s : Store} (h : s.Sound) {entity : Text} {id : Nat} {o : StoredObject}
    (ho : s.object? entity id = some o) {field : Text}
    (hfield : field ∈ stampFields) {n : Int} (hn : o.Holds field n) : n ≤ s.clock := by
  obtain ⟨c, m, hc, hm, -, hcm, hmc⟩ := h.object ho
  simp only [stampFields, List.mem_cons, List.not_mem_nil, or_false] at hfield
  rcases hfield with rfl | rfl
  · rw [hn.unique hc]
    omega
  · rw [hn.unique hm]
    exact hmc

theorem object?_of_table? {s : Store} {entity : Text} {t : Table} (ht : s.table? entity = some t)
    (id : Nat) : s.object? entity id = t.object? id := by
  rw [object?, ht, Option.bind_some]

theorem object?_setTable_self (entity : Text) (t : Table) (s : Store) (id : Nat) :
    (s.setTable entity t).object? entity id = t.object? id := by
  rw [object?, table?_setTable, if_pos rfl, Option.bind_some]

theorem object?_setTable_of_ne {entity other : Text} (h : other ≠ entity) (t : Table) (s : Store)
    (id : Nat) : (s.setTable entity t).object? other id = s.object? other id := by
  rw [object?, table?_setTable, if_neg h, object?]

/-! ### The effect of one call -/

/-- What a call does to numbers, clock and stamps. -/
structure Call.Effect (call : Call) (s : Store) : Prop where
  /-- The clock goes forward, whether or not the call succeeds. -/
  clock_lt : s.clock < (call.run s).2.clock
  /-- A call that fails leaves every table as it was, with its next number. -/
  tables_of_error : ∀ e, (call.run s).1 = .error e → (call.run s).2.tables = s.tables
  /-- The numbers that a call gives are the next ones; they were free and are in use now. -/
  fresh : ∀ created, (call.run s).1 = .ok created → ∃ t t',
    s.table? call.entity = some t ∧ (call.run s).2.table? call.entity = some t' ∧
      created = List.range' t.nextId created.length ∧ t'.numbers = t.numbers ++ created ∧
      ∀ id ∈ created, id ∉ t.numbers
  /-- No call takes an object away or changes when it was created. -/
  created_kept : ∀ entity id o c, s.object? entity id = some o → o.Holds "created" c →
    ∃ o', (call.run s).2.object? entity id = some o' ∧ o'.Holds "created" c
  /-- An update stamps its targets later than anything in the store was stamped. -/
  later : ∀ now entity ids values lang, call = .update now entity ids values lang →
    (call.run s).1 = .ok [] → ∀ id ∈ ids, ∃ o m,
      (call.run s).2.object? entity id = some o ∧ o.Holds "modified" m ∧
      ∀ other j o' field n, s.object? other j = some o' → field ∈ stampFields →
        o'.Holds field n → n < m

theorem Call.clock_lt (call : Call) (s : Store) : s.clock < (call.run s).2.clock := by
  rcases call.run_cases s with ⟨e, hr⟩ | ⟨t, created, t', ht, hf, hr⟩
  · rw [hr]
    exact clock_lt_tick call.now s
  · rw [hr]
    exact clock_lt_tick call.now s

theorem Call.created_kept (call : Call) (s : Store) {entity : Text} {id : Nat} {o : StoredObject}
    {c : Int} (ho : s.object? entity id = some o) (hc : o.Holds "created" c) :
    ∃ o', (call.run s).2.object? entity id = some o' ∧ o'.Holds "created" c := by
  rcases call.run_cases s with ⟨e, hr⟩ | ⟨t, created, t', ht, hf, hr⟩
  · rw [hr]
    exact ⟨o, ho, hc⟩
  · rw [hr]
    by_cases hentity : entity = call.entity
    · subst hentity
      rw [object?_of_table? ht] at ho
      obtain ⟨o', ho', hc'⟩ := Table.onTable_created hf ho hc
      exact ⟨o', (object?_setTable_self _ t' _ id).trans ho', hc'⟩
    · exact ⟨o, (object?_setTable_of_ne hentity t' _ id).trans ho, hc⟩

/-- The call is an update that names an object. -/
def Call.Updates (entity : Text) (id : Nat) : Call → Prop
  | .update _ other ids _ _ => other = entity ∧ id ∈ ids
  | .create .. | .clone .. => False

instance (entity : Text) (id : Nat) : ∀ call : Call, Decidable (call.Updates entity id)
  | .update _ other ids _ _ => inferInstanceAs (Decidable (other = entity ∧ id ∈ ids))
  | .create .. | .clone .. => inferInstanceAs (Decidable False)

/-- No call changes a schema. -/
theorem Call.schema?_run (call : Call) (s : Store) (entity : Text) :
    (call.run s).2.schema? entity = s.schema? entity := by
  rcases call.run_cases s with ⟨e, hr⟩ | ⟨t, created, t', ht, hf, hr⟩
  · rw [hr]
    rfl
  · rw [hr, schema?, schema?, table?_setTable]
    by_cases hentity : entity = call.entity
    · rw [if_pos hentity, hentity, ht, Option.map_some, Option.map_some, schema_onTable hf]
    · rw [if_neg hentity]
      rfl

/-- Where an object comes from that is there after a call: the table of another entity, or what a
successful call made of the table of its own. -/
theorem Call.object?_run_cases {call : Call} {s : Store} {entity : Text} {id : Nat}
    {o : StoredObject} (ho : (call.run s).2.object? entity id = some o) :
    (s.object? entity id = some o ∧ (call.entity = entity → ∃ e, (call.run s).1 = .error e)) ∨
    ∃ t created t', entity = call.entity ∧ s.table? entity = some t ∧
      call.onTable (s.tick call.now).clock s.defaultLang t = .ok (created, t') ∧
      (call.run s).1 = .ok created ∧ t'.object? id = some o := by
  rcases call.run_cases s with ⟨e, hr⟩ | ⟨t, created, t', ht, hf, hr⟩
  · rw [hr] at ho ⊢
    exact Or.inl ⟨ho, fun _ => ⟨e, rfl⟩⟩
  · rw [hr] at ho ⊢
    by_cases hentity : entity = call.entity
    · subst hentity
      rw [object?_setTable_self] at ho
      exact Or.inr ⟨t, created, t', rfl, ht, hf, rfl, ho⟩
    · rw [object?_setTable_of_ne hentity] at ho
      exact Or.inl ⟨ho, fun heq => absurd heq.symm hentity⟩

/-- What a call does not update stays as it is. -/
theorem Call.object?_run_of_not_updates {call : Call} {entity : Text} {id : Nat}
    (h : ¬ call.Updates entity id) {s : Store} {o : StoredObject}
    (ho : s.object? entity id = some o) : (call.run s).2.object? entity id = some o := by
  rcases call.run_cases s with ⟨e, hr⟩ | ⟨t, created, t', ht, hf, hr⟩
  · rw [hr]
    exact ho
  · rw [hr]
    by_cases hentity : entity = call.entity
    · subst hentity
      rw [object?_of_table? ht] at ho
      rw [object?_setTable_self]
      rcases Call.onTable_cases hf with
        ⟨_, _, -, -, -, rfl⟩ | ⟨ids, _, _, hcall, -, -, rfl⟩ | ⟨_, _, -, -, -, rfl⟩
      · exact Table.object?_addAll_of_some ho
      · rw [hcall] at h
        have hid : id ∉ ids := fun hid => h ⟨rfl, hid⟩
        rw [Table.object?_modifyAll, List.count_eq_zero_of_not_mem hid, ho]
        rfl
      · exact Table.object?_addAll_of_some ho
    · exact (object?_setTable_of_ne hentity t' _ id).trans ho

/-- An update that succeeds stamps every object it names with the time of the store. -/
theorem Sound.modified_of_updates {s : Store} (h : s.Sound) {call : Call} {entity : Text}
    {id : Nat} (hupdates : call.Updates entity id) {created : List Nat}
    (hok : (call.run s).1 = .ok created) :
    ∃ o, (call.run s).2.object? entity id = some o ∧
      o.Holds "modified" (call.run s).2.clock := by
  cases call with
  | create now other values lang => exact hupdates.elim
  | clone now other ids => exact hupdates.elim
  | update now other ids values lang =>
      obtain ⟨rfl, hid⟩ := hupdates
      rcases Call.run_cases (.update now other ids values lang) s with
        ⟨e, hr⟩ | ⟨t, created', t', ht, hf, hr⟩
      · rw [hr] at hok
        cases hok
      · rw [hr]
        obtain ⟨t'', hupdate, hpair⟩ := map_eq_ok_iff.mp hf
        obtain ⟨-, rfl⟩ := Prod.mk.inj hpair
        obtain ⟨o, ho, hm⟩ := (h.tables other t ht).updateIn_modified hupdate hid
        exact ⟨o, (object?_setTable_self other t'' _ id).trans ho, hm⟩

theorem Sound.effect {s : Store} (h : s.Sound) (call : Call) : call.Effect s := by
  refine ⟨?_, ?_, ?_, fun entity id o c ho hc => call.created_kept s ho hc, ?_⟩
  · exact call.clock_lt s
  · intro e he
    rcases call.run_cases s with ⟨e', hr⟩ | ⟨t, created, t', ht, hf, hr⟩
    · rw [hr]
      rfl
    · rw [hr] at he
      cases he
  · intro created hcreated
    rcases call.run_cases s with ⟨e, hr⟩ | ⟨t, created', t', ht, hf, hr⟩
    · rw [hr] at hcreated
      cases hcreated
    · rw [hr] at hcreated ⊢
      obtain rfl := Except.ok.inj hcreated
      refine ⟨t, t', ht, ?_, (h.tables call.entity t ht).onTable_fresh hf⟩
      rw [table?_setTable, if_pos rfl]
  · rintro now entity ids values lang rfl hok id hid
    have hupdates : Call.Updates entity id (.update now entity ids values lang) := ⟨rfl, hid⟩
    obtain ⟨o, ho, hm⟩ := h.modified_of_updates hupdates hok
    refine ⟨o, _, ho, hm, ?_⟩
    intro other j o' field n ho' hfield hn
    exact Int.lt_of_le_of_lt (h.stamp_le ho' hfield hn) (Call.clock_lt _ s)

/-! ### Runs -/

theorem created_kept_runCalls (calls : List Call) {s : Store} {entity : Text} {id : Nat}
    {o : StoredObject} {c : Int} (ho : s.object? entity id = some o) (hc : o.Holds "created" c) :
    ∃ o', (s.runCalls calls).object? entity id = some o' ∧ o'.Holds "created" c := by
  induction calls generalizing s o with
  | nil => exact ⟨o, ho, hc⟩
  | cons call calls ih =>
      obtain ⟨o', ho', hc'⟩ := call.created_kept s ho hc
      exact ih ho' hc'

/-- What no call of a run updates stays as it is. -/
theorem object?_runCalls_of_not_updates {calls : List Call} {entity : Text} {id : Nat}
    (h : ∀ call ∈ calls, ¬ call.Updates entity id) {s : Store} {o : StoredObject}
    (ho : s.object? entity id = some o) : (s.runCalls calls).object? entity id = some o := by
  induction calls generalizing s with
  | nil => exact ho
  | cons call calls ih =>
      obtain ⟨hcall, hcalls⟩ := List.forall_mem_cons.mp h
      exact ih hcalls (Call.object?_run_of_not_updates hcall ho)

/-- **Numbers, clock and stamps along every run.** After any calls, whatever registrations and
calls came before: every table is numbered from one without a gap, and stamps creation before the
last change and both within the clock; the objects that were there keep their stamp of creation;
and any further call moves the clock, leaves the tables alone when it fails, gives only fresh
numbers, and stamps later than everything before it. -/
theorem Reachable.run_sound {s : Store} (h : s.Reachable) (calls : List Call) :
    (s.runCalls calls).Sound ∧
      (∀ entity id o c, s.object? entity id = some o → o.Holds "created" c →
        ∃ o', (s.runCalls calls).object? entity id = some o' ∧ o'.Holds "created" c) ∧
      ∀ call : Call, call.Effect (s.runCalls calls) := by
  have hsound := (h.runCalls calls).sound
  exact ⟨hsound, fun _ _ _ _ ho hc => created_kept_runCalls calls ho hc, hsound.effect⟩

/-- Notes, which need a title. -/
def noteSchema : Schema :=
  (Schema.ofName "note").withField "title" { resultType := "string", required := true }

/-- A store of notes, without any yet. -/
def noteStore : Store := (Store.empty "en").register noteSchema

theorem noteStore_reachable : noteStore.Reachable := (Reachable.empty "en").register noteSchema

/-- A note is made, another lacks its title, the wall clock goes back while a change submits stamps
of its own, and the note is copied twice in one call. -/
def noteCalls : List Call := [
  .create 50 "note" [("title", .str "a")] "en", .create 60 "note" [] "en",
  .update 20 "note" [1, 1] [("title", .str "b"), ("created", .ofInt 99)] "fr",
  .clone 20 "note" [1, 1]]

theorem noteStore_run_sound :
    noteStore.Reachable ∧
      ((noteStore.runCalls noteCalls).table? "note").map Table.numbers = some [1, 2, 3] ∧
      (noteStore.runCalls noteCalls).Sound ∧
      (∀ entity id o c, noteStore.object? entity id = some o → o.Holds "created" c →
        ∃ o', (noteStore.runCalls noteCalls).object? entity id = some o' ∧
          o'.Holds "created" c) ∧
      ∀ call : Call, call.Effect (noteStore.runCalls noteCalls) :=
  ⟨noteStore_reachable, by decide, Reachable.run_sound noteStore_reachable noteCalls⟩

/-- A store with one note, made at second 50. -/
def oneNoteStore : Store :=
  ((Call.create 50 "note" [("title", .str "a")] "en").run noteStore).2

theorem oneNoteStore_reachable : oneNoteStore.Reachable := noteStore_reachable.call _

end Store

end HttpExchange
