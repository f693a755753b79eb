import HttpExchange.Action.Clone
import HttpExchange.Proofs.Action.Plan
import HttpExchange.Proofs.Adapter
import HttpExchange.Proofs.Assoc
import HttpExchange.Proofs.Store.Read

/-!
# Actions that fail leave no trace

An update makes up to three writes and then shows what it wrote, and any of
these steps could fail after an earlier one has been made. None of them does.
The first write of a change in place is also its last; a draft may lack every
required field, so once it is there the writes to it succeed; and what has just
been written can be read and shown, because its stamp is the present time. So an
action that fails has failed at its first write or before, and only the clock
has moved.

## Main definitions

* `Update.shownRow` — how an object is shown.
* `Update.forked`, `Update.afterFork` — the new object of a fork, and the store with it.

## Main results

* `adaptRow_shown` — an object whose last change has a stamp of four digits is shown.
* `exists_finish` — a write that is not refused is shown.
* `execute_fork` — a fork adds the new object and shows it.
* `tables_of_execute_error` — a plan that fails has changed no table.
* `Store.Reachable.actions_atomic` — updates and clones that fail, other than by
  the sink, leave objects and response as they were.
-/

namespace HttpExchange

open Store

/-- The fields that an update shows are described as in every entity. -/
def Schema.ShowsSpecial (schema : Schema) : Prop :=
  ∀ field ∈ Update.shownFields, schema.field? field = Assoc.get? field Schema.specialFields

instance (schema : Schema) : Decidable schema.ShowsSpecial :=
  inferInstanceAs (Decidable (∀ field ∈ Update.shownFields,
    schema.field? field = Assoc.get? field Schema.specialFields))

namespace Schema.ShowsSpecial

variable {schema : Schema} (h : schema.ShowsSpecial)

include h

theorem usageOf_eq {field : Text} (hfield : field ∈ Update.shownFields) :
    Update.usageOf schema field = Update.usageOf (.ofName []) field := by
  rw [Update.usageOf, h field hfield]
  rfl

theorem isWritable_state : schema.isWritable "state" = true := by
  rw [Schema.isWritable, Schema.contains, h "state".toList (by decide)]
  decide

end Schema.ShowsSpecial

namespace Update

/-! ## Showing -/

/-- The row of an object with some values, whose last change is stamped with `m`. -/
def shownRow (shownId state name : Json) (m : Int) : Members :=
  [("id", shownId), ("state", state), ("name", name),
    ("modified", .str (Timestamp.text (DateTime.ofSeconds m)))]

/-- **How an object is shown.** -/
theorem adaptRow_shown {schema : Schema} (hschema : schema.ShowsSpecial) (registry : Registry)
    (lang : Text) {id : Nat} {o : StoredObject} {m : Int} {shownId : Json}
    (hid : Adapter.integer.adaptOut (.ofNat id) = .ok shownId) (hm : o.Holds "modified" m)
    (hmoment : DateTime.InFourDigits m) :
    adaptRow registry schema (row schema shownFields lang id o) =
      .ok (.obj (shownRow shownId (o.value "state" lang) (o.value "name" lang) m)) := by
  have hcontains : ∀ field ∈ shownFields, schema.contains field = true := by
    intro field hfield
    rw [Schema.contains, hschema field hfield]
    revert field
    decide
  have hrow : row schema shownFields lang id o =
      [("id".toList, .ofNat id), ("state".toList, o.value "state" lang),
        ("name".toList, o.value "name" lang), ("modified".toList, o.value "modified" lang)] := by
    have hasked : (shownFields.filter fun f => f != "id".toList && schema.contains f) =
        ["state".toList, "name".toList, "modified".toList] := by
      rw [List.filter_congr fun f hf => by rw [hcontains f hf, Bool.and_true]]
      decide
    rw [row, hasked]
    refine Assoc.ofList_of_nodup ?_
    show ["id".toList, "state".toList, "name".toList, "modified".toList].Nodup
    decide
  have husage : ∀ field ∈ shownFields, usageOf schema field = usageOf (.ofName []) field :=
    fun field hfield => hschema.usageOf_eq hfield
  have hid' : (registry.resolveFor "json" (usageOf schema "id")).adaptOut (.ofNat id) =
      .ok shownId := by
    rw [husage "id".toList (by decide)]
    exact registry.resolveFor_integer ▸ hid
  have htext : ∀ field ∈ ["state".toList, "name".toList], ∀ v,
      (registry.resolveFor "json" (usageOf schema field)).adaptOut v = .ok v := by
    intro field hfield v
    have husage' : usageOf schema field = "string".toList := by
      rw [husage field (by revert field; decide)]
      revert field
      decide
    rw [husage']
    exact registry.resolveFor_string ▸ Adapter.passthrough_adaptOut v
  have hstamp : (registry.resolveFor "json" (usageOf schema "modified")).adaptOut
      (o.value "modified" lang) = .ok (.str (Timestamp.text (DateTime.ofSeconds m))) := by
    rw [husage "modified".toList (by decide), hm.value_eq]
    exact registry.resolveFor_datetime ▸ Adapter.dateTime_adaptOut hmoment
  rw [adaptRow, bind_eq_ok_iff, hrow]
  refine ⟨shownRow shownId (o.value "state" lang) (o.value "name" lang) m, ?_, ?_⟩
  · rw [mapM_eq_ok_iff]
    simp only [List.map_cons, List.map_nil, hid', hstamp, htext "state".toList (by decide),
      htext "name".toList (by decide)]
    rfl
  · refine congrArg (fun row => Except.ok (Json.obj row)) (Assoc.ofList_of_nodup ?_)
    show ["id".toList, "state".toList, "name".toList, "modified".toList].Nodup
    decide

theorem exists_adaptRow {schema : Schema} (hschema : schema.ShowsSpecial) (registry : Registry)
    (lang : Text) {id : Nat} {o : StoredObject} {m : Int} (hid : id ≤ Numeral.maxNat64)
    (hm : o.Holds "modified" m) (hmoment : DateTime.InFourDigits m) :
    ∃ v, adaptRow registry schema (row schema shownFields lang id o) = .ok v := by
  obtain ⟨shownId, hid⟩ := Adapter.exists_integer_adaptOut hid
  exact ⟨_, adaptRow_shown hschema registry lang hid hm hmoment⟩

/-! ## Writing -/

/-- The time of the store after the last write. -/
theorem clock_finish (wall : Nat → Int) (registry : Registry) (p : UpdateParams) (schema : Schema)
    (ids : List Nat) (fields : Members) (s : Store) :
    (finish wall registry p schema ids fields s).2.clock = (s.tick (wall 2)).clock := by
  simp only [finish, ObjectStore.update]
  rcases update_cases (wall 2) p.entity ids fields p.lang s with ⟨e, h⟩ | ⟨t, ht, htargets, h⟩
  · rw [h]
  · rw [h]
    rfl

/-- The last write of an update is followed by nothing that fails. -/
theorem exists_finish {s : Store} (hs : s.Sound) {p : UpdateParams} {t : Table}
    (ht : s.table? p.entity = some t) (hschema : t.schema.ShowsSpecial) {ids : List Nat}
    {fields : Members}
    (htargets : ∀ id ∈ ids, Updatable t.schema p.lang (writable t.schema fields) t id)
    (hids : ∀ id ∈ ids, id ≤ Numeral.maxNat64) (wall : Nat → Int) (registry : Registry)
    (hclock : (s.tick (wall 2)).clock ≤ 253402300799) :
    ∃ shown s', finish wall registry p t.schema ids fields s = (.ok shown, s') := by
  let now := (s.tick (wall 2)).clock
  let t' := t.modifyAll ids (.change t.schema s.defaultLang p.lang (writable t.schema fields) now)
  let s' := (s.tick (wall 2)).setTable p.entity t'
  have hmoment : DateTime.InFourDigits now := by
    have hstarted := (hs.tick (wall 2)).started
    exact ⟨by omega, hclock⟩
  have hupdate : ObjectStore.update (wall 2) p.entity ids fields p.lang s = (.ok (), s') :=
    update_of_table (wall 2) ht htargets
  have hupdateIn : updateIn now s.defaultLang p.entity p.lang ids fields t = .ok t' :=
    updateIn_eq_ok_iff.mpr ⟨htargets, rfl⟩
  have hobjects : ∀ id ∈ ids, ∃ o, t'.object? id = some o ∧ o.Holds "modified" now :=
    fun id hid => (hs.tables p.entity t ht).updateIn_modified hupdateIn hid
  have ht' : s'.table? p.entity = some t' := by rw [table?_setTable, if_pos rfl]
  obtain ⟨rows, hread, hrows⟩ := exists_read ht'
    (fun id hid => Option.isSome_iff_exists.mpr ((hobjects id hid).imp fun _ h => h.1))
    shownFields p.lang
  have hshown : ∀ r ∈ rows, ∃ v, adaptRow registry t.schema r = .ok v := by
    intro r hr
    obtain ⟨id, hid, o, ho, rfl⟩ := hrows r hr
    obtain ⟨o', ho', hm⟩ := hobjects id hid
    obtain rfl := Option.some.inj (ho.symm.trans ho')
    have hsame : t'.schema = t.schema := Table.schema_modifyAll ids _ t
    rw [hsame]
    exact exists_adaptRow hschema registry p.lang (hids id hid) hm hmoment
  obtain ⟨vs, hvs⟩ := exists_mapM_eq_ok hshown
  refine ⟨vs, s', ?_⟩
  have hread' : ObjectStore.read p.entity ids shownFields p.lang s' = .ok rows := hread
  rw [finish, hupdate]
  simp only [shown, hread', hvs]

/-! ## Drafts -/

theorem missing?_of_isDraft {schema : Schema} {values : Members} {lang : Text} {o : StoredObject}
    (h : isDraft (resolved values lang o "state") = true) :
    missing? schema values lang o = none := if_pos h

/-- Fields that make a draft can be written to anything. -/
theorem missing?_of_draft {schema : Schema} (hstate : schema.isWritable "state" = true)
    {fields : Members} (hdraft : isDraft (paramOf "state" fields) = true) (lang : Text)
    (o : StoredObject) : missing? schema (writable schema fields) lang o = none := by
  apply missing?_of_isDraft
  rw [resolved, get?_writable, if_pos hstate]
  unfold paramOf at hdraft
  cases h : Assoc.get? "state".toList fields with
  | none =>
      rw [h] at hdraft
      cases hdraft
  | some v =>
      rw [h] at hdraft
      exact hdraft

/-- A new draft needs no other values. -/
theorem missing?_newDraft {schema : Schema} (hstate : schema.isWritable "state" = true)
    (lang : Text) (o : StoredObject) :
    missing? schema (withState (writable schema [("state".toList, draft)])) lang o = none := by
  have hvalues : writable schema [("state".toList, draft)] = [("state".toList, draft)] :=
    List.filter_eq_self.mpr fun e he => by rwa [List.mem_singleton.mp he]
  apply missing?_of_isDraft
  rw [hvalues]
  rfl

theorem updatable_of_draft {t : Table} (hstate : t.schema.isWritable "state" = true)
    {fields : Members} (hdraft : isDraft (paramOf "state" fields) = true) (lang : Text) {id : Nat}
    (hid : (t.object? id).isSome) :
    ∀ target ∈ [id], Updatable t.schema lang (writable t.schema fields) t target := by
  intro target htarget
  obtain ⟨o, ho⟩ := Option.isSome_iff_exists.mp hid
  exact ⟨o, List.mem_singleton.mp htarget ▸ ho, missing?_of_draft hstate hdraft lang o⟩

/-- A new draft without any other values. -/
def newDraft (schema : Schema) (defaultLang lang : Text) (born : Int) : StoredObject :=
  .newborn schema defaultLang lang (withState (writable schema [("state", draft)])) born

/-- What a new draft is after the fields were written to it twice, at the times `first` and
`second`. -/
def forked (schema : Schema) (defaultLang lang : Text) (fields : Members)
    (born first second : Int) : StoredObject :=
  let change (now : Int) (o : StoredObject) : StoredObject :=
    o.change schema defaultLang lang (writable schema fields) now
  change second (change first (newDraft schema defaultLang lang born))

theorem holds_forked (schema : Schema) (defaultLang lang : Text) (fields : Members) {born : Int}
    (hborn : 0 < born) (first second : Int) :
    (forked schema defaultLang lang fields born first second).Holds "modified" second := by
  obtain ⟨-, m, -, hm, -⟩ :=
    StoredObject.Stamped.newborn schema defaultLang lang [("state".toList, draft)] born hborn
  exact (hm.change_modified schema defaultLang lang fields first).change_modified
    schema defaultLang lang fields second

/-- Writing fields that make a draft to an object that was just added. -/
theorem update_added {t : Table} (hnew : t.nextId ∉ t.numbers)
    (hstate : t.schema.isWritable "state" = true) {fields : Members}
    (hdraft : isDraft (paramOf "state" fields) = true) (s : Store) (entity lang : Text) (now : Int)
    (o : StoredObject) :
    (s.setTable entity (t.add o)).update now entity [t.nextId] fields lang =
      (.ok (), (s.tick now).setTable entity (t.add (o.change t.schema s.defaultLang lang
        (writable t.schema fields) (s.tick now).clock))) := by
  have hobject := t.object?_add_self hnew o
  have htable : (s.setTable entity (t.add o)).table? entity = some (t.add o) := by
    rw [table?_setTable, if_pos rfl]
  have htargets := updatable_of_draft (t := t.add o) hstate hdraft lang
    (Option.isSome_of_eq_some hobject)
  refine (update_of_table now htable htargets).trans ?_
  have hmodify := t.modify_add hnew o (.change t.schema s.defaultLang lang
    (writable t.schema fields) (s.tick now).clock)
  refine congrArg (Prod.mk (Except.ok ())) ?_
  refine (setTable_setTable entity (t.add o) _ (s.tick now)).trans ?_
  exact congrArg (fun t => (s.tick now).setTable entity t) hmodify

/-- The store after the three writes of a fork. -/
def afterFork (wall : Nat → Int) (p : UpdateParams) (t : Table) (fields : Members) (s : Store) :
    Store :=
  let born := s.tick (wall 0)
  let first := born.tick (wall 1)
  let second := first.tick (wall 2)
  second.setTable p.entity
    (t.add (forked t.schema s.defaultLang p.lang fields born.clock first.clock second.clock))

/-- **A fork adds the new object and shows it.** -/
theorem execute_fork {s : Store} {p : UpdateParams} {t : Table}
    (ht : s.table? p.entity = some t) (hnew : t.nextId ∉ t.numbers)
    (hstate : t.schema.isWritable "state" = true) {fields : Members}
    (hdraft : isDraft (paramOf "state" fields) = true) (wall : Nat → Int) (registry : Registry) :
    (Plan.fork fields).execute wall registry p t.schema s =
      (shown registry p t.schema [t.nextId] (afterFork wall p t fields s),
        afterFork wall p t fields s) := by
  let born := s.tick (wall 0)
  let first := born.tick (wall 1)
  let o := newDraft t.schema s.defaultLang p.lang born.clock
  let o' := o.change t.schema s.defaultLang p.lang (writable t.schema fields) first.clock
  have hcreate : ObjectStore.create (wall 0) p.entity [("state", draft)] p.lang s =
      (.ok t.nextId, born.setTable p.entity (t.add o)) :=
    create_of_table (wall 0) ht (missing?_newDraft hstate p.lang .empty)
  have hfirst : ObjectStore.update (wall 1) p.entity [t.nextId] fields p.lang
      (born.setTable p.entity (t.add o)) = (.ok (), first.setTable p.entity (t.add o')) :=
    update_added hnew hstate hdraft born p.entity p.lang (wall 1) o
  have hsecond : ObjectStore.update (wall 2) p.entity [t.nextId] fields p.lang
      (first.setTable p.entity (t.add o')) = (.ok (), afterFork wall p t fields s) :=
    update_added hnew hstate hdraft first p.entity p.lang (wall 2) o'
  simp only [Plan.execute, finish, hcreate, hfirst, hsecond]

/-- The new object is shown as it reads. -/
theorem shown_afterFork {s : Store} (hs : s.Sound) {p : UpdateParams} {t : Table}
    (ht : s.table? p.entity = some t) (hschema : t.schema.ShowsSpecial) (fields : Members)
    (wall : Nat → Int) (registry : Registry)
    (hclock : (afterFork wall p t fields s).clock ≤ 253402300799) {shownId : Json}
    (hid : Adapter.integer.adaptOut (.ofNat t.nextId) = .ok shownId) :
    let born := s.tick (wall 0)
    let first := born.tick (wall 1)
    let second := first.tick (wall 2)
    let o := forked t.schema s.defaultLang p.lang fields born.clock first.clock second.clock
    shown registry p t.schema [t.nextId] (afterFork wall p t fields s) =
      .ok [.obj (shownRow shownId (o.value "state" p.lang) (o.value "name" p.lang)
        (afterFork wall p t fields s).clock)] := by
  intro born first second o
  have hnew := (hs.tables p.entity t ht).not_mem_numbers (Nat.le_refl _)
  have htable : (afterFork wall p t fields s).table? p.entity = some (t.add o) := by
    rw [afterFork, table?_setTable, if_pos rfl]
  have hread : ObjectStore.read p.entity [t.nextId] shownFields p.lang
      (afterFork wall p t fields s) = .ok [row t.schema shownFields p.lang t.nextId o] :=
    read_singleton htable (t.object?_add_self hnew o) shownFields p.lang
  have hborn : 0 < born.clock := Int.lt_of_le_of_lt hs.started (clock_lt_tick (wall 0) s)
  have hmodified : o.Holds "modified" second.clock :=
    holds_forked t.schema s.defaultLang p.lang fields hborn first.clock second.clock
  have hmoment : DateTime.InFourDigits second.clock := by
    have hfirst : born.clock < first.clock := clock_lt_tick (wall 1) born
    have hsecond : first.clock < second.clock := clock_lt_tick (wall 2) first
    exact ⟨by omega, hclock⟩
  have hrow := adaptRow_shown hschema registry p.lang hid hmodified hmoment
  rw [shown, hread]
  refine mapM_eq_ok_iff.mpr ?_
  rw [List.map_singleton, List.map_singleton, hrow]
  rfl

/-- The new draft and the writes to it do not fail, and neither does showing it. -/
theorem exists_execute_fork {s : Store} (hs : s.Sound) {p : UpdateParams} {t : Table}
    (ht : s.table? p.entity = some t) (hschema : t.schema.ShowsSpecial)
    (hnext : t.nextId ≤ Numeral.maxNat64) {fields : Members}
    (hdraft : isDraft (paramOf "state" fields) = true) (wall : Nat → Int) (registry : Registry)
    (hclock : ((Plan.fork fields).execute wall registry p t.schema s).2.clock ≤ 253402300799) :
    ∃ shown s', (Plan.fork fields).execute wall registry p t.schema s = (.ok shown, s') := by
  have hnew := (hs.tables p.entity t ht).not_mem_numbers (Nat.le_refl _)
  rw [execute_fork ht hnew hschema.isWritable_state hdraft wall registry] at hclock ⊢
  obtain ⟨shownId, hid⟩ := Adapter.exists_integer_adaptOut hnext
  rw [shown_afterFork hs ht hschema fields wall registry hclock hid]
  exact ⟨_, _, rfl⟩

/-! ## Failures -/

/-- A plan that fails has changed no table. -/
theorem tables_of_execute_error {s s' : Store} (hs : s.Sound) {p : UpdateParams} {t : Table}
    (ht : s.table? p.entity = some t) (hschema : t.schema.ShowsSpecial)
    (hnext : t.nextId ≤ Numeral.maxNat64) {registry : Registry} {plan : Plan}
    (hplan : Update.plan registry p s = .ok (t.schema, plan)) {wall : Nat → Int} {e : Failure}
    (h : plan.execute wall registry p t.schema s = (.error e, s'))
    (hclock : s'.clock ≤ 253402300799) : s'.tables = s.tables := by
  cases plan with
  | nothing => cases h
  | inPlace ids fields =>
      have hfinish : finish wall registry p t.schema ids fields s = (.error e, s') := h
      rcases update_cases (wall 2) p.entity ids fields p.lang s with
        ⟨e', hu⟩ | ⟨t', ht', htargets, hu⟩
      · simp only [finish, ObjectStore.update, hu] at hfinish
        obtain ⟨-, rfl⟩ := Prod.mk.inj hfinish
        rfl
      · obtain rfl := Option.some.inj (ht.symm.trans ht')
        have hids : ∀ id ∈ ids, id ≤ Numeral.maxNat64 := by
          intro id hid
          obtain ⟨o, ho, -⟩ := htargets id hid
          have hmem := (t.object?_isSome_iff id).mp (Option.isSome_of_eq_some ho)
          by_contra hgt
          exact (hs.tables p.entity t ht).not_mem_numbers (by omega) hmem
        have htime := clock_finish wall registry p t.schema ids fields s
        rw [hfinish] at htime
        obtain ⟨shown, s'', hok⟩ :=
          exists_finish hs ht hschema htargets hids wall registry (htime ▸ hclock)
        rw [hfinish] at hok
        cases hok
  | fork fields =>
      obtain ⟨-, hnothing | ⟨ids, fields', -, -, hfields⟩⟩ := plan_eq_ok hplan
      · cases hnothing
      · obtain ⟨rfl, hdraft⟩ := isDraft_of_planFields hfields
        obtain ⟨shown, s'', hok⟩ :=
          exists_execute_fork hs ht hschema hnext hdraft wall registry (by rwa [h])
        rw [h] at hok
        cases hok

end Update

/-! ## Actions -/

/-- **A failed action leaves no trace.** When an update or a clone fails, and not because the sink
does, no table has changed and the response stands as it was before. The numbers of objects are of
64 bits. -/
theorem Store.Reachable.actions_atomic {s : Store} (hs : s.Reachable) (c : Context) :
    (∀ (wall : Nat → Int) (registry : Registry) (p : UpdateParams) (e : Failure),
      (∀ t, s.table? p.entity = some t →
        t.schema.ShowsSpecial ∧ t.nextId ≤ Numeral.maxNat64) →
      (Update.run wall registry p s c).2.1.clock ≤ 253402300799 →
      (Update.run wall registry p s c).1 = .error e → (∀ fault, e ≠ .io fault) →
      (Update.run wall registry p s c).2.1.tables = s.tables ∧
        (Update.run wall registry p s c).2.2 = c) ∧
    ∀ (now : Int) (p : CloneParams) (e : Failure),
      (Clone.run now p s c).1 = .error e → (∀ fault, e ≠ .io fault) →
      (Clone.run now p s c).2.1.tables = s.tables ∧ (Clone.run now p s c).2.2 = c := by
  refine ⟨?_, ?_⟩
  · intro wall registry p e htables hclock h he
    obtain ⟨happly, hrest⟩ := Update.run_error h he
    rw [hrest] at hclock ⊢
    refine ⟨?_, rfl⟩
    rw [Update.apply_run] at happly hclock ⊢
    cases hplan : Update.plan registry p s with
    | error e' => rfl
    | ok planned =>
        obtain ⟨schema, plan⟩ := planned
        simp only [hplan] at happly hclock ⊢
        obtain ⟨t, ht, rfl⟩ := Option.map_eq_some_iff.mp (Update.plan_eq_ok hplan).1
        obtain ⟨hschema, hnext⟩ := htables t ht
        exact Update.tables_of_execute_error hs.sound ht hschema hnext hplan
          (Prod.ext happly rfl) hclock
  · intro now p e h he
    rw [Clone.run] at h ⊢
    rcases write_cases now p.entity (fun s t => cloneIn s.clock p.entity p.ids t) s with
      ⟨e', hw⟩ | ⟨t, ids, t', -, -, hw⟩
    · have hclone : ObjectStore.cloneObjects now p.entity p.ids s = (.error e', s.tick now) := hw
      rw [hclone]
      exact ⟨rfl, rfl⟩
    · have hclone : ObjectStore.cloneObjects now p.entity p.ids s =
          (.ok ids, (s.tick now).setTable p.entity t') := hw
      rw [hclone] at h
      obtain ⟨fault, hfault⟩ := Context.respond_error h
      exact absurd hfault (he fault)

/-- A change of the note by a client that saw it half a minute before it was made. -/
def staleChange : UpdateParams where
  entity := "note"
  id := 1
  ids := []
  fields := [("title", .str "b"), ("modified", .str "1970-01-01T00:00:20+00:00")]
  force := false
  lang := "en"

/-- A response that has not been begun. -/
def idleContext : Context := ⟨Response.create [] [] .empty {}, {}, false⟩

/-- A stale change is refused, and so is a copy of an object that is not there. -/
theorem oneNoteStore_actions_atomic :
    ((Update.run (fun _ => 60) ⟨.mysql⟩ staleChange oneNoteStore idleContext).1 =
        .error (.conflict "concurrent_change") ∧
      (Update.run (fun _ => 60) ⟨.mysql⟩ staleChange oneNoteStore idleContext).2.1.tables =
        oneNoteStore.tables ∧
      (Update.run (fun _ => 60) ⟨.mysql⟩ staleChange oneNoteStore idleContext).2.2 =
        idleContext) ∧
    (Clone.run 60 ⟨"note", [1, 2], "en"⟩ oneNoteStore idleContext).1 =
        .error (.storage (.unknownObject "note" 2)) ∧
      (Clone.run 60 ⟨"note", [1, 2], "en"⟩ oneNoteStore idleContext).2.1.tables =
        oneNoteStore.tables ∧
      (Clone.run 60 ⟨"note", [1, 2], "en"⟩ oneNoteStore idleContext).2.2 = idleContext := by
  have htables : ∀ t ∈ oneNoteStore.table? "note",
      t.schema.ShowsSpecial ∧ t.nextId ≤ Numeral.maxNat64 := by decide
  have hupdate : (Update.run (fun _ => 60) ⟨.mysql⟩ staleChange oneNoteStore idleContext).1 =
      .error (.conflict "concurrent_change") := by decide +kernel
  have hclone : (Clone.run 60 ⟨"note", [1, 2], "en"⟩ oneNoteStore idleContext).1 =
      .error (.storage (.unknownObject "note" 2)) := by decide +kernel
  have hatomic := Store.Reachable.actions_atomic oneNoteStore_reachable idleContext
  refine ⟨⟨hupdate, ?_⟩, hclone, ?_⟩
  · exact hatomic.1 _ _ _ _ htables (by decide +kernel) hupdate (fun _ => by simp)
  · exact hatomic.2 _ _ _ hclone (fun _ => by simp)

end HttpExchange
