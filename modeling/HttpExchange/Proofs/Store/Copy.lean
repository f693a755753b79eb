import HttpExchange.Proofs.Store.Mandatory

/-!
# Copies

A call that copies objects looks for all of them before it takes the first number,
so it fails as the first one that is missing, and then nothing has happened. Each
copy has the values of its original, those that other languages have of their own
included, and stamps of its own. From then on the two have nothing in common: they
stand under different numbers, and a call reaches only the objects that it names.

## Main definitions

* `CopyFails` — why objects cannot be copied.
* `Copies` — what a call that copies objects has done.

## Main results

* `cloneObjects_eq_error_iff`, `Sound.clone_copies` — the two ways in which the call can end.
* `Copies.answer?_runCalls` — later updates of the originals do not reach the copies, nor the
  other way round.
* `Reachable.clone_faithful` — all of it, for every store that occurs.
-/

namespace HttpExchange.Store

/-! ## Failures -/

/-- Why some objects cannot be copied: the entity is not known, or one of them is not there, though
all before it are. -/
inductive CopyFails (entity : Text) (ids : List Nat) (s : Store) : StoreError → Prop
  | entity : s.table? entity = none → CopyFails entity ids s (.unknownEntity entity)
  | object {before after : List Nat} {id : Nat} : (s.table? entity).isSome = true →
      ids = before ++ id :: after → (∀ i ∈ before, (s.object? entity i).isSome = true) →
      s.object? entity id = none → CopyFails entity ids s (.unknownObject entity id)

theorem objectOf_eq_error_iff {entity : Text} {t : Table} {id : Nat} {e : StoreError} :
    objectOf entity t id = .error e ↔ t.object? id = none ∧ e = .unknownObject entity id := by
  unfold objectOf
  cases t.object? id with
  | none => simp [eq_comm]
  | some o => simp

theorem cloneIn_eq_error_iff {now : Int} {entity : Text} {ids : List Nat} {t : Table}
    {e : StoreError} :
    cloneIn now entity ids t = .error e ↔ ∃ before id after, ids = before ++ id :: after ∧
      (∀ i ∈ before, (t.object? i).isSome = true) ∧ t.object? id = none ∧
      e = .unknownObject entity id := by
  have hfound : ∀ i, (∃ o, objectOf entity t i = .ok o) ↔ (t.object? i).isSome = true := by
    intro i
    simp only [objectOf_eq_ok_iff, Option.isSome_iff_exists]
  unfold cloneIn
  rw [bind_eq_error_iff, mapM_eq_error_iff]
  simp only [hfound, objectOf_eq_error_iff]
  constructor
  · rintro (h | ⟨_, -, h⟩)
    · exact h
    · cases h
  · exact Or.inl

/-- **A call that copies objects fails as the first of them that is missing.** -/
theorem cloneObjects_eq_error_iff {now : Int} {entity : Text} {ids : List Nat} {s : Store}
    {e : StoreError} :
    (s.cloneObjects now entity ids).1 = .error e ↔ s.CopyFails entity ids e := by
  have hfound : ∀ {t : Table}, s.table? entity = some t →
      ∀ id, s.object? entity id = t.object? id := object?_of_table?
  cases ht : s.table? entity with
  | none =>
      rw [cloneObjects, write_of_none _ _ _ _ ht]
      constructor
      · intro h
        exact Except.error.inj h ▸ .entity ht
      · intro h
        cases h with
        | entity => rfl
        | object hsome => rw [ht] at hsome; cases hsome
  | some t =>
      have hwrite : (s.cloneObjects now entity ids).1 = .error e ↔
          cloneIn (s.tick now).clock entity ids t = .error e := by
        cases hclone : cloneIn (s.tick now).clock entity ids t with
        | error e' => rw [cloneObjects, write_of_error _ _ _ _ ht hclone, Except.error.injEq,
              Except.error.injEq]
        | ok r =>
            rw [cloneObjects, write_of_ok _ _ _ _ ht hclone]
            exact ⟨nofun, nofun⟩
      rw [hwrite, cloneIn_eq_error_iff]
      simp only [← hfound ht]
      constructor
      · rintro ⟨before, id, after, hids, hbefore, hid, rfl⟩
        exact .object (by rw [ht]; rfl) hids hbefore hid
      · intro h
        cases h with
        | entity hnone => rw [ht] at hnone; cases hnone
        | object _ hids hbefore hid => exact ⟨_, _, _, hids, hbefore, hid, rfl⟩

/-- A call that fails leaves every table as it was, with its next number. -/
theorem tables_of_cloneObjects_error {now : Int} {entity : Text} {ids : List Nat} {s s' : Store}
    {e : StoreError} (h : s.cloneObjects now entity ids = (.error e, s')) :
    s'.tables = s.tables := by
  rcases write_cases now entity (fun s t => cloneIn s.clock entity ids t) s with
    ⟨e', hr⟩ | ⟨t, copies, t', -, -, hr⟩
  · rw [(Prod.mk.inj (h.symm.trans hr)).2]
    rfl
  · cases (Prod.mk.inj (h.symm.trans hr)).1

/-! ## Copies -/

/-- What a call that copies some objects has done to a store. -/
structure Copies (s s' : Store) (entity : Text) (ids copies : List Nat) : Prop where
  /-- There is one copy for each number that was named, under the numbers that came next. -/
  numbers : ∃ t t', s.table? entity = some t ∧ s'.table? entity = some t' ∧
    copies = List.range' t.nextId ids.length ∧ t'.nextId = t.nextId + ids.length
  schemas : ∀ other, s'.schema? other = s.schema? other
  /-- Nothing stood under the numbers of the copies, and the originals are all there. -/
  fresh : ∀ id ∈ copies, s.object? entity id = none
  stored : ∀ id ∈ ids, (s.object? entity id).isSome = true
  /-- What was there has not changed. -/
  kept : ∀ other id o, s.object? other id = some o → s'.object? other id = some o
  /-- Each copy reads in every language what its original reads. -/
  faithful : ∀ (k original copy : Nat), ids[k]? = some original → copies[k]? = some copy →
    ∀ schema field lang, s.schema? entity = some schema → schema.contains field = true →
    field ∉ Schema.managed → ∃ v, s.answer? entity original field lang = some v ∧
      s'.answer? entity copy field lang = some v
  /-- Its stamps are those of its own birth, which is later than everything before. -/
  later : s.clock < s'.clock
  stamped : ∀ copy ∈ copies, ∀ schema field lang, s.schema? entity = some schema →
    schema.contains field = true → field ∈ stampFields →
    s'.answer? entity copy field lang = some (.ofInt s'.clock)

section Clone

variable {s : Store} {now : Int} {entity : Text} {ids copies : List Nat}
  (hok : ((Call.clone now entity ids).run s).1 = .ok copies)

include hok

/-- The originals are all there, and the copies take the numbers that come next. -/
theorem table?_clone : ∃ t t', s.table? entity = some t ∧
    ((Call.clone now entity ids).run s).2.table? entity = some t' ∧
    (∀ id ∈ ids, (t.object? id).isSome = true) ∧ copies = List.range' t.nextId ids.length ∧
    t'.nextId = t.nextId + ids.length := by
  rcases write_cases now entity (fun s t => cloneIn s.clock entity ids t) s with
    ⟨e, hr⟩ | ⟨t, copies', t', ht, hf, hr⟩
  · cases (congrArg Prod.fst hr).symm.trans hok
  · obtain rfl := Except.ok.inj ((congrArg Prod.fst hr).symm.trans hok)
    obtain ⟨sources, hsources, hcopies, ht'⟩ := cloneIn_eq_ok_iff.mp hf
    have hlength : sources.length = ids.length := by
      simpa using (congrArg List.length hsources).symm
    have hstore : ((Call.clone now entity ids).run s).2 = (s.tick now).setTable entity t' :=
      congrArg Prod.snd hr
    refine ⟨t, t', ht, ?_, fun id hid => ?_, hlength ▸ hcopies, ?_⟩
    · rw [hstore, table?_setTable, if_pos rfl]
    · have hmem : t.object? id ∈ sources.map some := hsources ▸ List.mem_map_of_mem hid
      obtain ⟨source, -, hsource⟩ := List.mem_map.mp hmem
      rw [← hsource]
      rfl
    · rw [ht', Table.nextId_addAll, List.length_map, hlength]

/-- Each copy has an original. -/
theorem exists_original {copy : Nat} (hcopy : copy ∈ copies) :
    ∃ (k original : Nat), ids[k]? = some original ∧ copies[k]? = some copy := by
  obtain ⟨t, t', -, -, -, hcopies, -⟩ := table?_clone hok
  obtain ⟨k, hk⟩ := List.mem_iff_getElem?.mp hcopy
  have hlt : k < ids.length := by
    have hbound := (List.getElem?_eq_some_iff.mp hk).1
    rwa [hcopies, List.length_range'] at hbound
  exact ⟨k, ids[k], List.getElem?_eq_getElem hlt, hk⟩

/-- A copy is its original with stamps of its own. -/
theorem Sound.object?_copy (hs : s.Sound) {k original copy : Nat}
    (horiginal : ids[k]? = some original) (hcopy : copies[k]? = some copy) :
    ∃ source, s.object? entity original = some source ∧
      ((Call.clone now entity ids).run s).2.object? entity copy =
        some (source.born (s.tick now).clock) := by
  obtain ⟨o, ho⟩ := hs.exists_object_of_created hok (List.mem_of_getElem? hcopy)
  obtain ⟨source, hsource, rfl⟩ := hs.object_of_clone hok horiginal hcopy ho
  exact ⟨source, hsource, ho⟩

/-- **What a call that copies objects has done.** -/
theorem Sound.clone_copies (hs : s.Sound) :
    Copies s ((Call.clone now entity ids).run s).2 entity ids copies := by
  have hschemas : ∀ other, ((Call.clone now entity ids).run s).2.schema? other =
      s.schema? other := Call.schema?_run _ s
  obtain ⟨t, t', ht, ht', hstored, hcopies, hnext⟩ := table?_clone hok
  have hclock : ((Call.clone now entity ids).run s).2.clock = (s.tick now).clock := by
    rcases Call.run_cases (.clone now entity ids) s with ⟨e, hr⟩ | ⟨_, _, _, -, -, hr⟩ <;> rw [hr]
      <;> rfl
  refine
    { numbers := ⟨t, t', ht, ht', hcopies, hnext⟩
      schemas := hschemas
      stored := fun id hid => object?_of_table? ht id ▸ hstored id hid
      kept := fun other id o ho => Call.object?_run_of_not_updates (by exact not_false) ho
      later := Call.clock_lt _ s
      fresh := fun id hid => ?_
      faithful := fun k original copy horiginal hcopy schema field lang hschema hfield hfree => ?_
      stamped := fun copy hcopy schema field lang hschema hfield hstamp => ?_ }
  · have hnumber : t.nextId ≤ id := (List.mem_range'_1.mp (hcopies ▸ hid)).1
    have hnew := mt (t.object?_isSome_iff id).mp ((hs.tables entity t ht).not_mem_numbers hnumber)
    rw [object?_of_table? ht]
    exact Option.not_isSome_iff_eq_none.mp hnew
  · obtain ⟨source, hsource, hborn⟩ := hs.object?_copy hok horiginal hcopy
    simp only [Schema.managed, List.mem_cons, List.not_mem_nil, or_false, not_or] at hfree
    obtain ⟨hid, hcreated, hmodified⟩ := hfree
    refine ⟨_, answer?_of_object? hschema hsource hid hfield lang, ?_⟩
    rw [answer?_of_object? ((hschemas entity).trans hschema) hborn hid hfield,
      StoredObject.value_born hcreated hmodified]
  · obtain ⟨k, original, horiginal, hk⟩ := exists_original hok hcopy
    obtain ⟨source, hsource, hborn⟩ := hs.object?_copy hok horiginal hk
    obtain ⟨c, m, hc, hm, -, -, -⟩ := hs.object hsource
    obtain ⟨hc', hm'⟩ := StoredObject.born_holds hc.alone hm.alone (s.tick now).clock
    have hne : field ≠ "id".toList := by
      rintro rfl
      revert hstamp
      decide
    rw [answer?_of_object? ((hschemas entity).trans hschema) hborn hne hfield]
    simp only [stampFields, List.mem_cons, List.not_mem_nil, or_false] at hstamp
    rcases hstamp with rfl | rfl
    · rw [hc'.value_eq, hclock]
    · rw [hm'.value_eq, hclock]

end Clone

/-! ## Later updates -/

/-- No call updates objects of the entity but those of some numbers. -/
def UpdatesWithin (entity : Text) (ids : List Nat) (calls : List Call) : Prop :=
  ∀ call ∈ calls, ∀ id, call.Updates entity id → id ∈ ids

/-- An object that is there reads as before when all updates of its entity are of others. -/
theorem UpdatesWithin.answer?_runCalls {entity : Text} {ids : List Nat} {calls : List Call}
    (h : UpdatesWithin entity ids calls) {s : Store} {id : Nat}
    (hsome : (s.object? entity id).isSome = true) (hid : id ∉ ids) (field lang : Text) :
    (s.runCalls calls).answer? entity id field lang = s.answer? entity id field lang := by
  obtain ⟨o, ho⟩ := Option.isSome_iff_exists.mp hsome
  have hspared : ∀ call ∈ calls, ¬ call.Updates entity id := fun call hcall hupdates =>
    hid (h call hcall id hupdates)
  refine answer?_congr (schema?_runCalls calls s entity) ?_ field lang
  rw [ho, object?_runCalls_of_not_updates hspared ho]

namespace Copies

variable {s s' : Store} {entity : Text} {ids copies : List Nat}
  (h : Copies s s' entity ids copies)

include h

/-- Originals and copies stand under different numbers. -/
theorem disjoint {id : Nat} (hid : id ∈ ids) : id ∉ copies := by
  intro hcopy
  have hsome := h.stored id hid
  rw [h.fresh id hcopy] at hsome
  cases hsome

/-- The originals are still there. -/
theorem isSome_original {id : Nat} (hid : id ∈ ids) : (s'.object? entity id).isSome = true := by
  obtain ⟨o, ho⟩ := Option.isSome_iff_exists.mp (h.stored id hid)
  rw [h.kept entity id o ho]
  rfl

/-- **Updates of the originals do not reach the copies, nor the other way round.** -/
theorem answer?_runCalls (hcopies : ∀ id ∈ copies, (s'.object? entity id).isSome = true)
    (calls : List Call) :
    (UpdatesWithin entity ids calls → ∀ copy ∈ copies, ∀ field lang,
      (s'.runCalls calls).answer? entity copy field lang = s'.answer? entity copy field lang) ∧
    (UpdatesWithin entity copies calls → ∀ original ∈ ids, ∀ field lang,
      (s'.runCalls calls).answer? entity original field lang =
        s'.answer? entity original field lang) := by
  constructor
  · intro hwithin copy hcopy
    exact hwithin.answer?_runCalls (hcopies copy hcopy) fun hid => h.disjoint hid hcopy
  · intro hwithin original horiginal
    exact hwithin.answer?_runCalls (h.isSome_original horiginal) (h.disjoint horiginal)

end Copies

/-- **Copies are faithful and independent.** A call that copies objects fails exactly when the
entity is not known or one of the objects is not there, as the first of them, and leaves every table
as it was. Otherwise it gives the next numbers, one for each that was named. Each copy reads in every
language what its original reads, but for its number and its stamps, and nothing else changes. Later
updates of originals alone leave what the copies read, and those of copies alone what the originals
read. -/
theorem Reachable.clone_faithful {s : Store} (hs : s.Reachable) (now : Int) (entity : Text)
    (ids : List Nat) :
    (∀ e, (s.cloneObjects now entity ids).1 = .error e ↔ s.CopyFails entity ids e) ∧
    (∀ e s', s.cloneObjects now entity ids = (.error e, s') → s'.tables = s.tables) ∧
    ∀ copies s', s.cloneObjects now entity ids = (.ok copies, s') →
      Copies s s' entity ids copies ∧
      ∀ calls,
        (UpdatesWithin entity ids calls → ∀ copy ∈ copies, ∀ field lang,
          (s'.runCalls calls).answer? entity copy field lang =
            s'.answer? entity copy field lang) ∧
        (UpdatesWithin entity copies calls → ∀ original ∈ ids, ∀ field lang,
          (s'.runCalls calls).answer? entity original field lang =
            s'.answer? entity original field lang) := by
  refine ⟨fun _ => cloneObjects_eq_error_iff, fun _ _ => tables_of_cloneObjects_error,
    fun copies s' h => ?_⟩
  have hok : ((Call.clone now entity ids).run s).1 = .ok copies := congrArg Prod.fst h
  have hstore : ((Call.clone now entity ids).run s).2 = s' := congrArg Prod.snd h
  have hcopies := hs.sound.clone_copies hok
  have hthere : ∀ id ∈ copies, (s'.object? entity id).isSome = true := by
    intro id hid
    obtain ⟨o, ho⟩ := hs.sound.exists_object_of_created hok hid
    rw [← hstore]
    exact Option.isSome_iff_exists.mpr ⟨o, ho⟩
  rw [hstore] at hcopies
  exact ⟨hcopies, hcopies.answer?_runCalls hthere⟩

/-- The pages after the first one, which is translated, was copied twice, and the second in
between. -/
def copiedPages : Store := (translatedPages.cloneObjects 80 "page" [1, 2, 1]).2

/-- Both originals are changed in the default language, and the first one in another too. -/
def laterPageCalls : List Call := [
  .update 90 "page" [1, 2] [("title", .str "c"), ("summary", .str "good day")] "en",
  .update 95 "page" [1] [("summary", .str "salut")] "fr"]

theorem translatedPages_clone_faithful :
    translatedPages.Reachable ∧
      translatedPages.cloneObjects 80 "page" [1, 2, 1] = (.ok [3, 4, 5], copiedPages) ∧
      Copies translatedPages copiedPages "page" [1, 2, 1] [3, 4, 5] ∧
      (∀ lang, (copiedPages.runCalls laterPageCalls).answer? "page" 5 "summary" lang =
        copiedPages.answer? "page" 5 "summary" lang) ∧
      ["en", "fr"].map (fun lang => copiedPages.answer? "page" 5 "summary" lang.toList) =
        [some (.str "hello"), some (.str "bonjour")] ∧
      (translatedPages.cloneObjects 80 "page" [1, 7, 9]).1 = .error (.unknownObject "page" 7) := by
  have hreachable : translatedPages.Reachable := pageStore_reachable.runCalls _
  have hdone : translatedPages.cloneObjects 80 "page" [1, 2, 1] = (.ok [3, 4, 5], copiedPages) :=
    Prod.ext rfl rfl
  obtain ⟨-, -, hcopied⟩ := Reachable.clone_faithful hreachable 80 "page" [1, 2, 1]
  obtain ⟨hcopies, hlater⟩ := hcopied _ _ hdone
  obtain ⟨hfails, -, -⟩ := Reachable.clone_faithful hreachable 80 "page" [1, 7, 9]
  have hwithin : UpdatesWithin "page" [1, 2, 1] laterPageCalls := by
    refine List.forall_mem_cons.mpr ⟨fun id hupdates => ?_, List.forall_mem_singleton.mpr
      fun id hupdates => ?_⟩
    · exact List.mem_append_left [1] hupdates.2
    · exact List.mem_append_right [1, 2] hupdates.2
  refine ⟨hreachable, hdone, hcopies, ?_, by decide, ?_⟩
  · exact (hlater laterPageCalls).1 hwithin 5 (by decide) _
  · exact (hfails _).mpr (.object rfl (show [1, 7, 9] = [1] ++ 7 :: [9] from rfl) (by decide)
      (by decide))

end HttpExchange.Store
