import HttpExchange.Proofs.Action.Atomicity
import HttpExchange.Proofs.Store.Filled

/-!
# Drafts of live objects

A change that makes a draft of a single object that is none is written to a new
object. It is made as an empty draft, and then the fields are written to it, once
as the fork and once as the object that the update is about. The second write
finds the values of the first, so the new object reads as the submitted fields
say, and nothing else has been touched.

## Main results

* `Update.value_forked` — what the new object reads.
* `Update.plan_of_draft` — when a draft forks, and when it changes the object.
* `Store.Reachable.draft_forks` — what becomes of the store and of the response.
-/

namespace HttpExchange

open Store

/-! ## What was submitted -/

namespace Update

/-- The adapted fields are submitted fields that the entity has, in their order. -/
theorem adaptFields_sublist {registry : Registry} {schema : Schema} {submitted fields : Members}
    (h : adaptFields registry schema submitted = .ok fields) :
    (Assoc.keys fields).Sublist (Assoc.keys submitted) ∧
      ∀ field ∈ Assoc.keys fields, schema.contains field = true := by
  induction submitted generalizing fields with
  | nil =>
      obtain rfl := Except.ok.inj h
      exact ⟨.slnil, nofun⟩
  | cons e rest ih =>
      obtain ⟨field, v⟩ := e
      rw [adaptFields] at h
      cases hfield : schema.field? field with
      | none =>
          rw [hfield] at h
          obtain ⟨hsublist, hcontains⟩ := ih h
          exact ⟨hsublist.cons field, hcontains⟩
      | some f =>
          rw [hfield] at h
          obtain ⟨w, -, h⟩ := bind_eq_ok_iff.mp h
          obtain ⟨others, hothers, h⟩ := bind_eq_ok_iff.mp h
          obtain rfl := Except.ok.inj h
          obtain ⟨hsublist, hcontains⟩ := ih hothers
          cases w with
          | none => exact ⟨hsublist.cons field, hcontains⟩
          | some w =>
              refine ⟨hsublist.cons_cons field, fun other hother => ?_⟩
              rcases List.mem_cons.mp hother with rfl | hother
              · rw [Schema.contains, hfield]
                rfl
              · exact hcontains other hother

/-- A submitted field that the store does not write itself is written as it is. -/
theorem get?_writable_of_adapted {registry : Registry} {schema : Schema}
    {submitted fields : Members} (h : adaptFields registry schema submitted = .ok fields)
    {field : Text} (hfield : field ∉ Schema.managed) :
    Assoc.get? field (writable schema fields) = Assoc.get? field fields := by
  rw [get?_writable]
  cases hget : Assoc.get? field fields with
  | none => rw [ite_self]
  | some v =>
      have hcontains := (adaptFields_sublist h).2 field
        (List.mem_map.mpr ⟨_, Assoc.mem_of_get? hget, rfl⟩)
      have hwritable : schema.isWritable field = true := by
        rw [Schema.isWritable, hcontains, Bool.true_and, Bool.not_eq_true', List.contains_eq_mem,
          decide_eq_false hfield]
      rw [if_pos hwritable]

/-! ## The new object -/

/-- A new draft has no values but its state and its stamps. -/
theorem value_newDraft (schema : Schema) (defaultLang lang : Text) (born : Int) {field : Text}
    (hstate : field ≠ "state".toList) (hcreated : field ≠ "created".toList)
    (hmodified : field ≠ "modified".toList) :
    (newDraft schema defaultLang lang born).value field lang = .null := by
  have hnone : Assoc.get? field (withState (writable schema [("state", draft)])) = none := by
    have hwritable : Assoc.get? field (writable schema [("state", draft)]) = none := by
      rw [get?_writable, Assoc.get?, if_neg (Ne.symm hstate), Assoc.get?, ite_self]
    rw [withState]
    split
    · exact hwritable
    · rw [Assoc.get?_set_of_ne hstate]
      exact hwritable
  have hdistinct : (Assoc.keys (withState (writable schema [("state", draft)]))).Nodup :=
    nodup_keys_withState (nodup_keys_writable (by decide) schema)
  refine (StoredObject.value_newborn_self hdistinct hcreated hmodified born).trans ?_
  rw [resolved, hnone]
  rfl

/-- **The new object reads the submitted fields, and nothing else.** -/
theorem value_forked {registry : Registry} {schema : Schema} {submitted fields : Members}
    (hdistinct : (Assoc.keys submitted).Nodup)
    (hfields : adaptFields registry schema submitted = .ok fields)
    (hstate : Assoc.get? "state" fields = some draft) (defaultLang lang : Text)
    (born first second : Int) {field : Text} (hfield : field ∉ Schema.managed) :
    (forked schema defaultLang lang fields born first second).value field lang =
      (Assoc.get? field fields).getD .null := by
  have hcreated : field ≠ "created".toList := fun heq => hfield (heq ▸ by decide)
  have hmodified : field ≠ "modified".toList := fun heq => hfield (heq ▸ by decide)
  have hvalues : (Assoc.keys (writable schema fields)).Nodup :=
    nodup_keys_writable ((adaptFields_sublist hfields).1.nodup hdistinct) schema
  have hread := get?_writable_of_adapted hfields hfield
  let o := newDraft schema defaultLang lang born
  let o' := o.change schema defaultLang lang (writable schema fields) first
  have hplaced : o.WellPlaced schema defaultLang := StoredObject.wellPlaced_newborn lang _ born
  have hplaced' : o'.WellPlaced schema defaultLang :=
    hplaced.iterate_change lang (writable schema fields) first 1
  -- what the second write does not give a value has the one that the first write gave it
  have hsecond : (forked schema defaultLang lang fields born first second).value field lang =
      resolved (writable schema fields) lang o' field :=
    StoredObject.value_change_self hvalues hplaced' hmodified second 0
  have hfirst : o'.value field lang = resolved (writable schema fields) lang o field :=
    StoredObject.value_change_self hvalues hplaced hmodified first 0
  rw [hsecond, resolved, hread]
  cases hget : Assoc.get? field fields with
  | some v => rfl
  | none =>
      have hother : field ≠ "state".toList := by
        rintro rfl
        rw [hstate] at hget
        cases hget
      rw [Option.getD_none, hfirst, resolved, hread, hget]
      exact value_newDraft schema defaultLang lang born hother hcreated hmodified

/-- The new object is shown with its state and the submitted name. -/
theorem shown_afterFork_of_adapted {s : Store} (hs : s.Sound) {registry : Registry}
    {p : UpdateParams} {t : Table} (ht : s.table? p.entity = some t)
    (hschema : t.schema.ShowsSpecial) {fields : Members}
    (hdistinct : (Assoc.keys p.fields).Nodup)
    (hfields : adaptFields registry t.schema p.fields = .ok fields)
    (hdraft : Assoc.get? "state" fields = some draft) (wall : Nat → Int)
    (hclock : (afterFork wall p t fields s).clock ≤ 253402300799) {shownId : Json}
    (hid : Adapter.integer.adaptOut (.ofNat t.nextId) = .ok shownId) :
    shown registry p t.schema [t.nextId] (afterFork wall p t fields s) =
      .ok [.obj (shownRow shownId draft ((Assoc.get? "name" fields).getD .null)
        (afterFork wall p t fields s).clock)] := by
  have hshown := shown_afterFork hs ht hschema fields wall registry hclock hid
  have hread := value_forked hdistinct hfields hdraft s.defaultLang p.lang
  dsimp only at hshown
  rw [hread _ _ _ (by decide), hread _ _ _ (by decide), hdraft, Option.getD_some] at hshown
  exact hshown

/-! ## Planning -/

theorem planFields_of_draft {s : Store} {p : UpdateParams} {t : Table}
    (ht : s.table? p.entity = some t) (hcontains : t.schema.contains "state" = true) {id : Nat}
    {o : StoredObject} (ho : t.object? id = some o) {fields : Members}
    (hdraft : isDraft (paramOf "state" fields) = true) :
    planFields p fields [id] s =
      .ok (if isDraft (o.value "state" p.lang) then .inPlace [id] fields else .fork fields) := by
  have hread : ObjectStore.read p.entity [id] ["state"] p.lang s =
      .ok [row t.schema ["state"] p.lang id o] := read_singleton ht ho ["state"] p.lang
  have hlive : liveValue "state" [row t.schema ["state"] p.lang id o] =
      o.value "state" p.lang := by
    rw [liveValue, List.head?_cons, Option.bind_some,
      get?_row (by decide) (List.mem_singleton.mpr rfl) hcontains, Option.getD_some]
  rw [planFields, List.length_singleton, if_neg (by decide), if_pos hdraft, hread]
  dsimp only
  rw [hlive]
  split <;> rfl

/-- What an update with fields that make a draft is going to write to a single object. -/
theorem plan_of_draft {s : Store} {registry : Registry} {p : UpdateParams} {t : Table}
    (ht : s.table? p.entity = some t) (hcontains : t.schema.contains "state" = true) {id : Nat}
    (htargets : targets p = .ok [id]) {o : StoredObject} (ho : t.object? id = some o)
    {fields : Members} (hfields : adaptFields registry t.schema p.fields = .ok fields)
    (hdraft : isDraft (paramOf "state" fields) = true) :
    plan registry p s = .ok (t.schema,
      if isDraft (o.value "state" p.lang) then .inPlace [id] fields else .fork fields) := by
  have hschema : ObjectStore.schema? p.entity s = some t.schema := by
    show (s.table? p.entity).map (·.schema) = some t.schema
    rw [ht, Option.map_some]
  have hnonempty : ¬ fields.isEmpty = true := by
    intro hempty
    rw [List.isEmpty_iff.mp hempty] at hdraft
    cases hdraft
  simp only [plan, htargets, hschema, hfields, if_neg hnonempty,
    planFields_of_draft ht hcontains ho hdraft]
  rfl

end Update

/-! ## The action -/

namespace Store

/-- The numbers of an entity: the one that is next, and those of its objects. -/
def numbering (entity : Text) (s : Store) : Option (Nat × List Nat) :=
  (s.table? entity).map fun t => (t.nextId, t.numbers)

theorem numbering_update (now : Int) (entity : Text) (ids : List Nat) (values : Members)
    (lang other : Text) (s : Store) :
    (s.update now entity ids values lang).2.numbering other = s.numbering other := by
  rcases update_cases now entity ids values lang s with ⟨e, h⟩ | ⟨t, ht, -, h⟩
  · rw [h]
    rfl
  · rw [h, numbering, table?_setTable]
    split
    · next heq =>
        rw [numbering, heq, ht, Option.map_some, Option.map_some, Table.nextId_modifyAll,
          Table.numbers_modifyAll]
    · rfl

end Store

/-- The last write of an update makes no object. -/
theorem Update.numbering_finish (wall : Nat → Int) (registry : Registry) (p : UpdateParams)
    (schema : Schema) (ids : List Nat) (fields : Members) (s : Store) (entity : Text) :
    (finish wall registry p schema ids fields s).2.numbering entity = s.numbering entity := by
  have hupdate := s.numbering_update (wall 2) p.entity ids fields p.lang entity
  have hstore : (finish wall registry p schema ids fields s).2 =
      (s.update (wall 2) p.entity ids fields p.lang).2 := by
    simp only [finish, ObjectStore.update]
    rcases s.update (wall 2) p.entity ids fields p.lang with ⟨_ | _, s'⟩ <;> rfl
  rw [hstore, hupdate]

/-- **A change that makes a draft leaves a live object alone.** Take a store that occurs and fields
that are adapted to some with the state of a draft, submitted for a single object. If the object is
no draft, the sink works and the clock shows a year of four digits, the action succeeds: it adds one
object under the number that was next, which reads the adapted fields and nothing else that the
store does not write itself, and answers with its row; nothing else in the store changes but the
clock. If the object is a draft, no object is made. The numbers of objects are of 64 bits. -/
theorem Store.Reachable.draft_forks {s : Store} (hs : s.Reachable) {registry : Registry}
    {p : UpdateParams} {t : Table} (ht : s.table? p.entity = some t)
    (hschema : t.schema.ShowsSpecial) (hnext : t.nextId ≤ Numeral.maxNat64) {id : Nat}
    (htargets : Update.targets p = .ok [id]) {o : StoredObject} (ho : t.object? id = some o)
    {fields : Members} (hdistinct : (Assoc.keys p.fields).Nodup)
    (hfields : Update.adaptFields registry t.schema p.fields = .ok fields)
    (hdraft : Assoc.get? "state" fields = some Update.draft) (wall : Nat → Int) (c : Context)
    (lang : Text) :
    (isDraft (o.value "state" lang) = false → c.sink.writeFault = none →
      c.sink.flushFault = none →
      (Update.run wall registry p s c).2.1.clock ≤ 253402300799 →
      ∃ fork shownId s' c', Update.run wall registry p s c = (.ok (), s', c') ∧
        s'.tables = (s.setTable p.entity (t.add fork)).tables ∧
        (∀ field ∉ Schema.managed,
          fork.value field p.lang = (Assoc.get? field fields).getD .null) ∧
        c'.sent = true ∧ c'.response.statusCode = 200 ∧
        c'.response.body = .structured (.arr [.obj (Update.shownRow shownId Update.draft
          ((Assoc.get? "name" fields).getD .null) s'.clock)]) ∧
        ((t.nextId : Int) ≤ Numeral.maxInt64 → shownId = .ofNat t.nextId)) ∧
    (isDraft (o.value "state" lang) = true → ∀ entity,
      (Update.run wall registry p s c).2.1.numbering entity = s.numbering entity) := by
  have hparam : isDraft (paramOf "state" fields) = true := by
    rw [paramOf, hdraft]
    decide
  have hcontains : t.schema.contains "state" = true := by
    have hwritable := hschema.isWritable_state
    rw [Schema.isWritable, Bool.and_eq_true] at hwritable
    exact hwritable.1
  have hmultilang : t.schema.isMultilang "state" = false := by
    rw [Schema.isMultilang, hschema "state".toList (by decide)]
    decide
  have hplan := Update.plan_of_draft ht hcontains htargets ho hfields hparam
  have hlang := (hs.wellPlaced ht ho).value_eq hmultilang p.lang lang
  rw [hlang] at hplan
  have hrun := Update.apply_run wall registry p s
  rw [hplan] at hrun
  dsimp only at hrun
  constructor
  · intro hlive hwrite hflush hclock
    have hnew := (hs.sound.tables p.entity t ht).not_mem_numbers (Nat.le_refl _)
    have hexecute := Update.execute_fork ht hnew hschema.isWritable_state hparam wall registry
    rw [hlive] at hrun
    replace hrun := hrun.trans hexecute
    rw [Update.run_store, hrun] at hclock
    obtain ⟨shownId, hid, hsame⟩ : ∃ shownId,
        Adapter.integer.adaptOut (.ofNat t.nextId) = .ok shownId ∧
          ((t.nextId : Int) ≤ Numeral.maxInt64 → shownId = .ofNat t.nextId) := by
      obtain ⟨shownId, hid⟩ := Adapter.exists_integer_adaptOut hnext
      refine ⟨shownId, hid, fun hsigned => ?_⟩
      exact Except.ok.inj (hid.symm.trans (Adapter.integer_adaptOut hsigned))
    have hshown := Update.shown_afterFork_of_adapted hs.sound ht hschema hdistinct hfields hdraft
      wall hclock hid
    rw [hshown] at hrun
    obtain ⟨c', hrespond, hsent, hresponse, -⟩ := Context.respond_eq_ok hwrite hflush 200
      (.arr [.obj (Update.shownRow shownId Update.draft ((Assoc.get? "name" fields).getD .null)
        (Update.afterFork wall p t fields s).clock)])
    refine ⟨_, shownId, Update.afterFork wall p t fields s, c', ?_, rfl,
      fun field hfield => Update.value_forked hdistinct hfields hdraft _ _ _ _ _ hfield, hsent,
      ?_, ?_, hsame⟩
    · simp only [Update.run, hrun, hrespond]
    · rw [hresponse]
      change Status.leadingCode (Status.line 200) = 200
      decide +kernel
    · rw [hresponse]
      rfl
  · intro hold entity
    rw [Update.run_store, hrun, hold]
    exact Update.numbering_finish wall registry p t.schema [id] fields s entity

/-- A draft of a page in another language, with a stamp from before the page was changed and a field
that pages do not have. -/
def pageDraft : UpdateParams where
  entity := "page"
  id := 1
  ids := []
  fields := [("summary", .str "brouillon"), ("state", .str "draft"),
    ("modified", .str "1970-01-01T00:00:20+00:00"), ("note", .str "x")]
  force := false
  lang := "fr"

/-- The fields of the draft as they are stored. -/
def pageDraftFields : Members :=
  [("summary", .str "brouillon"), ("state", .str "draft"), ("modified", .ofInt 20)]

/-- A store of pages with one page, which is a draft. -/
def draftStore : Store :=
  Store.pageStore.runCalls [.create 50 "page" [("state", .str "draft")] "fr"]

/-- A draft of a translated page goes to a third page, which lacks a title. A draft of a page that
is a draft makes no page. -/
theorem pageDraft_forks :
    (∃ t fork s' c', Store.translatedPages.table? "page" = some t ∧ t.nextId = 3 ∧
      Update.run (fun _ => 90) ⟨.mysql⟩ pageDraft Store.translatedPages idleContext =
        (.ok (), s', c') ∧
      s'.tables = (Store.translatedPages.setTable "page" (t.add fork)).tables ∧
      fork.value "summary" "fr" = .str "brouillon" ∧ fork.value "title" "fr" = .null ∧
      c'.response.body = .structured (.arr [.obj (Update.shownRow (.ofNat 3) (.str "draft") .null
        s'.clock)])) ∧
    ∀ entity, (Update.run (fun _ => 90) ⟨.mysql⟩ pageDraft draftStore idleContext).2.1.numbering
      entity = draftStore.numbering entity := by
  have htargets : Update.targets pageDraft = .ok [1] := rfl
  have hdistinct : (Assoc.keys pageDraft.fields).Nodup := by decide
  constructor
  · let t := (Store.translatedPages.table? "page").getD (.empty Store.pageSchema)
    have ht : Store.translatedPages.table? pageDraft.entity = some t := by decide +kernel
    obtain ⟨o, ho, hlive⟩ : ∃ o, t.object? 1 = some o ∧ isDraft (o.value "state" "en") = false :=
      ⟨(t.object? 1).getD .empty, by decide +kernel, by decide +kernel⟩
    have hfields : Update.adaptFields ⟨.mysql⟩ t.schema pageDraft.fields = .ok pageDraftFields := by
      decide +kernel
    obtain ⟨fork, shownId, s', c', hrun, htables, hvalues, -, -, hbody, hid⟩ :=
      (Store.Reachable.draft_forks (Store.pageStore_reachable.runCalls _) ht (by decide +kernel)
        (by decide +kernel) htargets ho hdistinct hfields rfl (fun _ => 90) idleContext "en").1
        hlive rfl rfl (by decide +kernel)
    have hnext : t.nextId = 3 := by decide +kernel
    rw [hnext] at hid
    rw [hid (by decide)] at hbody
    exact ⟨t, fork, s', c', ht, hnext, hrun, htables, hvalues _ (by decide), hvalues _ (by decide),
      hbody⟩
  · let t := (draftStore.table? "page").getD (.empty Store.pageSchema)
    have ht : draftStore.table? pageDraft.entity = some t := by decide +kernel
    obtain ⟨o, ho, hold⟩ : ∃ o, t.object? 1 = some o ∧ isDraft (o.value "state" "en") = true :=
      ⟨(t.object? 1).getD .empty, by decide +kernel, by decide +kernel⟩
    have hfields : Update.adaptFields ⟨.mysql⟩ t.schema pageDraft.fields = .ok pageDraftFields := by
      decide +kernel
    exact (Store.Reachable.draft_forks (Store.pageStore_reachable.runCalls _) ht
      (by decide +kernel) (by decide +kernel) htargets ho hdistinct hfields rfl (fun _ => 90)
      idleContext "en").2 hold

end HttpExchange
