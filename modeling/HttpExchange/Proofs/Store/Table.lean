import HttpExchange.Proofs.Except
import HttpExchange.Proofs.Store.Stamp
import Mathlib.Logic.Function.Iterate

/-!
# Tables under writes

A write either adds objects under the numbers that come next, or changes the
objects of some numbers in place. The first part says what both do to every
object of a table; the second says, for each write of the store, when it
succeeds and which of the two it is.

## Main results

* `object?_modifyAll` — a change in place reaches the named objects only.
* `createIn_eq_ok_iff`, `updateIn_eq_ok_iff`, `cloneIn_eq_ok_iff` — when a write
  succeeds, and what table it leaves.
-/

namespace HttpExchange

namespace Table

/-- The numbers of the objects, in order. -/
def numbers (t : Table) : List Nat := t.objects.map Prod.fst

/-- The same change to the objects of some numbers, one after the other. -/
def modifyAll (ids : List Nat) (f : StoredObject → StoredObject) (t : Table) : Table :=
  ids.foldl (fun t id => t.modify id f) t

/-- Adds objects under the next numbers. -/
def addAll (os : List StoredObject) (t : Table) : Table := os.foldl (fun t o => t.add o) t

/-! ## Changes in place -/

private theorem lookup_change (id : Nat) (f : StoredObject → StoredObject) (j : Nat)
    (objects : List (Nat × StoredObject)) :
    (objects.map fun (i, o) => if i = id then (i, f o) else (i, o)).lookup j =
      if j = id then (objects.lookup j).map f else objects.lookup j := by
  induction objects with
  | nil => simp
  | cons e rest ih =>
      obtain ⟨i, o⟩ := e
      by_cases hj : j = i
      · subst hj
        by_cases hi : j = id <;> simp [hi]
      · have hbeq : (j == i) = false := beq_eq_false_iff_ne.mpr hj
        by_cases hi : i = id
        · simp only [List.map_cons, if_pos hi, List.lookup_cons, hbeq, ih]
        · simp only [List.map_cons, if_neg hi, List.lookup_cons, hbeq, ih]

theorem object?_modify (id : Nat) (f : StoredObject → StoredObject) (t : Table) (j : Nat) :
    (t.modify id f).object? j = if j = id then (t.object? j).map f else t.object? j :=
  lookup_change id f j t.objects

@[simp] theorem numbers_modify (id : Nat) (f : StoredObject → StoredObject) (t : Table) :
    (t.modify id f).numbers = t.numbers := by
  simp only [numbers, modify, List.map_map]
  apply List.map_congr_left
  rintro ⟨i, o⟩ -
  simp only [Function.comp_apply]
  split <;> rfl

theorem modifyAll_cons (id : Nat) (ids : List Nat) (f : StoredObject → StoredObject)
    (t : Table) : t.modifyAll (id :: ids) f = (t.modify id f).modifyAll ids f := rfl

/-- A number that is named several times is changed that many times. -/
theorem object?_modifyAll (ids : List Nat) (f : StoredObject → StoredObject) (t : Table)
    (j : Nat) : (t.modifyAll ids f).object? j = (t.object? j).map f^[ids.count j] := by
  induction ids generalizing t with
  | nil =>
      show t.object? j = (t.object? j).map f^[0]
      rw [Function.iterate_zero, Option.map_id_apply]
  | cons id ids ih =>
      rw [modifyAll_cons, ih, object?_modify]
      by_cases h : j = id
      · subst h
        rw [if_pos rfl, List.count_cons_self, Option.map_map, Function.iterate_succ]
      · rw [if_neg h, List.count_cons_of_ne (Ne.symm h)]

@[simp] theorem numbers_modifyAll (ids : List Nat) (f : StoredObject → StoredObject)
    (t : Table) : (t.modifyAll ids f).numbers = t.numbers := by
  induction ids generalizing t with
  | nil => rfl
  | cons id ids ih => rw [modifyAll_cons, ih, numbers_modify]

@[simp] theorem nextId_modifyAll (ids : List Nat) (f : StoredObject → StoredObject)
    (t : Table) : (t.modifyAll ids f).nextId = t.nextId := by
  induction ids generalizing t with
  | nil => rfl
  | cons id ids ih => exact ih (t.modify id f)

@[simp] theorem schema_modifyAll (ids : List Nat) (f : StoredObject → StoredObject)
    (t : Table) : (t.modifyAll ids f).schema = t.schema := by
  induction ids generalizing t with
  | nil => rfl
  | cons id ids ih => exact ih (t.modify id f)

/-! ## New objects -/

theorem addAll_cons (o : StoredObject) (os : List StoredObject) (t : Table) :
    t.addAll (o :: os) = (t.add o).addAll os := rfl

theorem objects_addAll (os : List StoredObject) (t : Table) :
    (t.addAll os).objects = t.objects ++ (List.range' t.nextId os.length).zip os := by
  induction os generalizing t with
  | nil => simp [addAll]
  | cons o os ih =>
      rw [addAll_cons, ih]
      simp [add, List.range'_succ]

@[simp] theorem nextId_addAll (os : List StoredObject) (t : Table) :
    (t.addAll os).nextId = t.nextId + os.length := by
  induction os generalizing t with
  | nil => rfl
  | cons o os ih =>
      rw [addAll_cons, ih]
      show t.nextId + 1 + os.length = t.nextId + (os.length + 1)
      omega

@[simp] theorem schema_addAll (os : List StoredObject) (t : Table) :
    (t.addAll os).schema = t.schema := by
  induction os generalizing t with
  | nil => rfl
  | cons o os ih => exact ih (t.add o)

@[simp] theorem numbers_addAll (os : List StoredObject) (t : Table) :
    (t.addAll os).numbers = t.numbers ++ List.range' t.nextId os.length := by
  rw [numbers, objects_addAll, List.map_append, ← numbers,
    List.map_fst_zip (Nat.le_of_eq List.length_range')]

/-- An object that is there already stays what it is. -/
theorem object?_addAll_of_some {os : List StoredObject} {t : Table} {j : Nat} {o : StoredObject}
    (h : t.object? j = some o) : (t.addAll os).object? j = some o := by
  unfold object? at h ⊢
  rw [objects_addAll, List.lookup_append, h]
  rfl

/-- An object that is found after adding some is an old one, or the one of them whose turn the
number was. -/
theorem object?_addAll_cases {os : List StoredObject} {t : Table} {j : Nat} {o : StoredObject}
    (h : (t.addAll os).object? j = some o) :
    t.object? j = some o ∨ ∃ k, j = t.nextId + k ∧ os[k]? = some o := by
  unfold object? at h ⊢
  rw [objects_addAll, List.lookup_append] at h
  cases hold : t.objects.lookup j with
  | some o' =>
      rw [hold, Option.some_or] at h
      exact Or.inl h
  | none =>
      rw [hold, Option.none_or] at h
      obtain ⟨before, after, heq, -⟩ := List.lookup_eq_some_iff.mp h
      have hmem : (j, o) ∈ (List.range' t.nextId os.length).zip os := by
        rw [heq]
        simp
      obtain ⟨k, hk⟩ := List.mem_iff_getElem?.mp hmem
      obtain ⟨hj, ho⟩ := List.getElem?_zip_eq_some.mp hk
      obtain ⟨hlt, hj⟩ := List.getElem?_eq_some_iff.mp hj
      rw [List.getElem_range', Nat.one_mul] at hj
      exact Or.inr ⟨k, hj.symm, ho⟩

theorem object?_isSome_iff (t : Table) (j : Nat) : (t.object? j).isSome ↔ j ∈ t.numbers := by
  unfold object? numbers
  rw [List.lookup_isSome_iff]
  simp

section Add

variable {t : Table} (hnew : t.nextId ∉ t.numbers)

include hnew

/-- A new object is found under the number that was next. -/
theorem object?_add_self (o : StoredObject) : (t.add o).object? t.nextId = some o := by
  have hnone : t.objects.lookup t.nextId = none :=
    Option.not_isSome_iff_eq_none.mp (mt (t.object?_isSome_iff t.nextId).mp hnew)
  rw [object?, add, List.lookup_append, hnone, Option.none_or, List.lookup_cons, beq_self_eq_true]

/-- A new object that is changed at once is the changed object, added. -/
theorem modify_add (o : StoredObject) (f : StoredObject → StoredObject) :
    (t.add o).modify t.nextId f = t.add (f o) := by
  have hold : (t.objects.map fun (i, o) => if i = t.nextId then (i, f o) else (i, o)) =
      t.objects := by
    refine (List.map_congr_left fun e he => ?_).trans (List.map_id t.objects)
    have hne : e.1 ≠ t.nextId := by
      intro heq
      exact hnew (heq ▸ List.mem_map_of_mem he)
    exact if_neg hne
  have hlast : (if t.nextId = t.nextId then (t.nextId, f o) else (t.nextId, o)) =
      (t.nextId, f o) := if_pos rfl
  rw [modify, add, List.map_append, hold, List.map_singleton]
  dsimp only
  rw [hlast]
  rfl

end Add

end Table

/-! ## When writes succeed -/

namespace StoredObject

/-- The change that an update makes to an object. -/
def change (schema : Schema) (defaultLang lang : Text) (values : Members) (now : Int)
    (o : StoredObject) : StoredObject :=
  (o.writeAll schema defaultLang lang values).touch now

/-- A new object with some values. -/
def newborn (schema : Schema) (defaultLang lang : Text) (values : Members) (now : Int) :
    StoredObject :=
  (StoredObject.empty.born now).writeAll schema defaultLang lang values

end StoredObject

namespace Store

theorem checkMandatory_eq_ok_iff {schema : Schema} {values : Members} {lang : Text}
    {o : StoredObject} :
    checkMandatory schema values lang o = .ok () ↔ missing? schema values lang o = none := by
  unfold checkMandatory
  cases missing? schema values lang o with
  | none => simp
  | some field => simp

theorem objectOf_eq_ok_iff {entity : Text} {t : Table} {id : Nat} {o : StoredObject} :
    objectOf entity t id = .ok o ↔ t.object? id = some o := by
  unfold objectOf
  cases t.object? id with
  | none => simp
  | some o' => simp

theorem createIn_eq_ok_iff {now : Int} {defaultLang lang : Text} {values : Members} {t t' : Table}
    {id : Nat} :
    createIn now defaultLang lang values t = .ok (id, t') ↔
      missing? t.schema (withState (writable t.schema values)) lang .empty = none ∧
        id = t.nextId ∧
        t' = t.addAll [.newborn t.schema defaultLang lang
          (withState (writable t.schema values)) now] := by
  unfold createIn
  rw [bind_eq_ok_iff]
  constructor
  · rintro ⟨⟨⟩, hcheck, hr⟩
    have hpair := Prod.mk.inj (Except.ok.inj hr)
    exact ⟨checkMandatory_eq_ok_iff.mp hcheck, hpair.1.symm, hpair.2.symm⟩
  · rintro ⟨hcheck, rfl, rfl⟩
    exact ⟨(), checkMandatory_eq_ok_iff.mpr hcheck, rfl⟩

/-- Every target is there and would lack no required field. -/
def Updatable (schema : Schema) (lang : Text) (values : Members) (t : Table) (id : Nat) : Prop :=
  ∃ o, t.object? id = some o ∧ missing? schema values lang o = none

theorem updateIn_eq_ok_iff {now : Int} {defaultLang entity lang : Text} {ids : List Nat}
    {values : Members} {t t' : Table} :
    updateIn now defaultLang entity lang ids values t = .ok t' ↔
      (∀ id ∈ ids, Updatable t.schema lang (writable t.schema values) t id) ∧
        t' = t.modifyAll ids
          (.change t.schema defaultLang lang (writable t.schema values) now) := by
  have hstep : ∀ id, (∃ u, (objectOf entity t id >>=
      checkMandatory t.schema (writable t.schema values) lang) = .ok u) ↔
      Updatable t.schema lang (writable t.schema values) t id := by
    intro id
    simp only [bind_eq_ok_iff, objectOf_eq_ok_iff]
    constructor
    · rintro ⟨⟨⟩, o, ho, hcheck⟩
      exact ⟨o, ho, checkMandatory_eq_ok_iff.mp hcheck⟩
    · rintro ⟨o, ho, hcheck⟩
      exact ⟨(), o, ho, checkMandatory_eq_ok_iff.mpr hcheck⟩
  unfold updateIn
  simp only [← bind_assoc]
  rw [bind_eq_ok_iff]
  simp only [← hstep]
  rw [← forIn_eq_ok_iff]
  constructor
  · rintro ⟨⟨⟩, hloop, ht⟩
    exact ⟨hloop, (Except.ok.inj ht).symm⟩
  · rintro ⟨hloop, rfl⟩
    exact ⟨PUnit.unit, hloop, rfl⟩

theorem map_objectOf_eq_iff {entity : Text} {t : Table} {ids : List Nat}
    {os : List StoredObject} :
    ids.map (objectOf entity t) = os.map .ok ↔ ids.map t.object? = os.map some :=
  map_eq_map_ok_iff fun _ _ => objectOf_eq_ok_iff

private theorem foldl_copies (now : Int) (sources : List StoredObject) (created : List Nat)
    (t : Table) :
    sources.foldl (fun (x : List Nat × Table) o =>
        (x.1 ++ [x.2.nextId], x.2.add (o.born now))) (created, t) =
      (created ++ List.range' t.nextId sources.length, t.addAll (sources.map (·.born now))) := by
  induction sources generalizing created t with
  | nil => simp [Table.addAll]
  | cons o sources ih =>
      rw [List.foldl_cons, ih, List.map_cons, Table.addAll_cons]
      simp [Table.add, List.range'_succ]

theorem cloneIn_eq_ok_iff {now : Int} {entity : Text} {ids created : List Nat} {t t' : Table} :
    cloneIn now entity ids t = .ok (created, t') ↔
      ∃ sources : List StoredObject, ids.map t.object? = sources.map some ∧
        created = List.range' t.nextId sources.length ∧
        t' = t.addAll (sources.map (·.born now)) := by
  unfold cloneIn
  simp only [bind_eq_ok_iff, mapM_eq_ok_iff, map_objectOf_eq_iff]
  constructor
  · rintro ⟨sources, hsources, hr⟩
    have hpair := Prod.mk.inj (Except.ok.inj (hr.symm.trans
      (congrArg Except.ok (foldl_copies now sources [] t))))
    exact ⟨sources, hsources, hpair.1, hpair.2⟩
  · rintro ⟨sources, hsources, rfl, rfl⟩
    exact ⟨sources, hsources, congrArg Except.ok (foldl_copies now sources [] t)⟩

end Store

end HttpExchange
