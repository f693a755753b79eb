import HttpExchange.Proofs.Store.Invariant

/-!
# What a store answers

A question about some objects is answered when all of them are there, with one
row for each. A row says the number of its object and the values of those asked
fields that the entity has, and nothing else.

## Main results

* `read_eq_ok_iff` — when a question is answered, and with what.
* `get?_row`, `mem_row` — what a row says.
* `answer?_of_contains` — what is answered for one field of one object.
-/

namespace HttpExchange.Store

theorem tableOf_eq_ok_iff {entity : Text} {s : Store} {t : Table} :
    s.tableOf entity = .ok t ↔ s.table? entity = some t := by
  unfold tableOf
  cases s.table? entity with
  | none => simp
  | some t' => simp

/-- A question is answered by one row for each object, in the order of the numbers. -/
theorem read_eq_ok_iff {entity : Text} {ids : List Nat} {fields : List Text} {lang : Text}
    {s : Store} {rows : List Members} :
    s.read entity ids fields lang = .ok rows ↔ ∃ t, s.table? entity = some t ∧
      ids.map (fun id => (t.object? id).map (row t.schema fields lang id)) = rows.map some := by
  unfold read
  simp only [bind_eq_ok_iff, mapM_eq_ok_iff, tableOf_eq_ok_iff]
  have hrow : ∀ (t : Table) (id : Nat) (r : Members),
      (objectOf entity t id).map (row t.schema fields lang id) = .ok r ↔
        (t.object? id).map (row t.schema fields lang id) = some r := by
    intro t id r
    rw [map_eq_ok_iff, Option.map_eq_some_iff]
    simp only [objectOf_eq_ok_iff]
  simp only [map_eq_map_ok_iff (hrow _)]

/-- Objects that are all there can be read, and every row is that of one of them. -/
theorem exists_read {entity : Text} {ids : List Nat} {s : Store} {t : Table}
    (ht : s.table? entity = some t) (hids : ∀ id ∈ ids, (t.object? id).isSome)
    (fields : List Text) (lang : Text) :
    ∃ rows, s.read entity ids fields lang = .ok rows ∧
      ∀ r ∈ rows, ∃ id ∈ ids, ∃ o, t.object? id = some o ∧
        r = row t.schema fields lang id o := by
  have hread : s.read entity ids fields lang =
      .ok (ids.map fun id => row t.schema fields lang id ((t.object? id).getD .empty)) := by
    refine read_eq_ok_iff.mpr ⟨t, ht, ?_⟩
    rw [List.map_map]
    apply List.map_congr_left
    intro id hid
    obtain ⟨o, ho⟩ := Option.isSome_iff_exists.mp (hids id hid)
    rw [Function.comp_apply, ho, Option.map_some, Option.getD_some]
  refine ⟨_, hread, ?_⟩
  intro r hr
  obtain ⟨id, hid, rfl⟩ := List.mem_map.mp hr
  obtain ⟨o, ho⟩ := Option.isSome_iff_exists.mp (hids id hid)
  exact ⟨id, hid, o, ho, by rw [ho, Option.getD_some]⟩

theorem read_singleton {entity : Text} {id : Nat} {s : Store} {t : Table} {o : StoredObject}
    (ht : s.table? entity = some t) (ho : t.object? id = some o) (fields : List Text)
    (lang : Text) : s.read entity [id] fields lang = .ok [row t.schema fields lang id o] := by
  refine read_eq_ok_iff.mpr ⟨t, ht, ?_⟩
  rw [List.map_singleton, List.map_singleton, ho, Option.map_some]

/-! ## Rows -/

variable {schema : Schema} {fields : List Text} {lang : Text} {id : Nat} {o : StoredObject}

theorem mem_row {field : Text} {v : Json} (h : (field, v) ∈ row schema fields lang id o) :
    (field = "id".toList ∧ v = .ofNat id) ∨
      (field ≠ "id".toList ∧ field ∈ fields ∧ schema.contains field = true ∧
        v = o.value field lang) := by
  rcases List.mem_cons.mp (Assoc.mem_ofList h) with hid | hother
  · exact Or.inl (Prod.mk.inj hid)
  · obtain ⟨f, hf, hpair⟩ := List.mem_map.mp hother
    obtain ⟨rfl, rfl⟩ := Prod.mk.inj hpair
    obtain ⟨hmem, hne⟩ := List.mem_filter.mp hf
    rw [Bool.and_eq_true, bne_iff_ne] at hne
    exact Or.inr ⟨hne.1, hmem, hne.2, rfl⟩

/-- A row has the value of every field that it was asked for and that the entity has. -/
theorem get?_row {field : Text} (hne : field ≠ "id".toList) (hfield : field ∈ fields)
    (hschema : schema.contains field = true) :
    Assoc.get? field (row schema fields lang id o) = some (o.value field lang) := by
  have hmem : field ∈ fields.filter fun f => f != "id".toList && schema.contains f := by
    rw [List.mem_filter]
    exact ⟨hfield, by rw [hschema, Bool.and_true, bne_iff_ne]; exact hne⟩
  unfold row Assoc.ofList
  rw [Assoc.get?_setAll_of_forall, if_pos]
  · rw [Assoc.keys, List.map_cons, List.map_map]
    exact List.mem_cons_of_mem _ (List.mem_map.mpr ⟨field, hmem, rfl⟩)
  · rintro ⟨k, v⟩ he rfl
    rcases List.mem_cons.mp he with hid | hother
    · exact absurd (Prod.mk.inj hid).1 hne
    · obtain ⟨f, -, hpair⟩ := List.mem_map.mp hother
      obtain ⟨rfl, rfl⟩ := Prod.mk.inj hpair
      rfl

/-! ## Single answers -/

/-- What a store answers when it is asked for one field of one object. -/
def answer? (entity : Text) (id : Nat) (field lang : Text) (s : Store) : Option Json :=
  match s.read entity [id] [field] lang with
  | .ok rows => rows.head?.bind (Assoc.get? field)
  | .error _ => none

/-- What a language has of its own for a field of an object. -/
def ownValue? (entity : Text) (id : Nat) (field lang : Text) (s : Store) : Option Json :=
  (s.object? entity id).bind (·.localValue? field lang)

section Answer

variable {entity : Text} {s : Store} {t : Table}

theorem answer?_of_table? (ht : s.table? entity = some t) (id : Nat) (field lang : Text) :
    s.answer? entity id field lang =
      (t.object? id).bind fun o => Assoc.get? field (row t.schema [field] lang id o) := by
  cases ho : t.object? id with
  | none =>
      unfold answer?
      split
      · next rows hrows =>
          obtain ⟨t', ht', hmap⟩ := read_eq_ok_iff.mp hrows
          obtain rfl := Option.some.inj (ht.symm.trans ht')
          rw [List.map_singleton, ho, Option.map_none] at hmap
          cases rows with
          | nil => cases hmap
          | cons row rows => cases (List.cons.inj hmap).1
      · rfl
  | some o =>
      rw [answer?, read_singleton ht ho]
      rfl

/-- The answer for a field that the entity has is the value of the object, -/
theorem answer?_of_contains (ht : s.table? entity = some t) {field : Text}
    (hne : field ≠ "id".toList) (hfield : t.schema.contains field = true) (id : Nat)
    (lang : Text) :
    s.answer? entity id field lang = (t.object? id).map (·.value field lang) := by
  rw [answer?_of_table? ht]
  cases t.object? id with
  | none => rfl
  | some o => exact get?_row hne (List.mem_singleton.mpr rfl) hfield

/-- and there is none for any other field. -/
theorem contains_of_answer? (ht : s.table? entity = some t) {field lang : Text}
    (hne : field ≠ "id".toList) {id : Nat} {v : Json}
    (h : s.answer? entity id field lang = some v) : t.schema.contains field = true := by
  rw [answer?_of_table? ht] at h
  obtain ⟨o, -, hv⟩ := Option.bind_eq_some_iff.mp h
  rcases mem_row (Assoc.mem_of_get? hv) with ⟨hid, -⟩ | ⟨-, -, hcontains, -⟩
  · exact absurd hid hne
  · exact hcontains

theorem answer?_of_object? {schema : Schema} (hschema : s.schema? entity = some schema) {id : Nat}
    {o : StoredObject} (ho : s.object? entity id = some o) {field : Text}
    (hne : field ≠ "id".toList) (hfield : schema.contains field = true) (lang : Text) :
    s.answer? entity id field lang = some (o.value field lang) := by
  obtain ⟨t, ht, rfl⟩ := Option.map_eq_some_iff.mp hschema
  rw [object?_of_table? ht] at ho
  rw [answer?_of_contains ht hne hfield, ho, Option.map_some]

/-- The answers for an object depend on the schema of its entity and on the object alone. -/
theorem answer?_congr {s' : Store} {id : Nat} (hschema : s'.schema? entity = s.schema? entity)
    (hobject : s'.object? entity id = s.object? entity id) (field lang : Text) :
    s'.answer? entity id field lang = s.answer? entity id field lang := by
  have hanswer : ∀ r : Store, r.answer? entity id field lang =
      (r.schema? entity).bind fun schema => (r.object? entity id).bind fun o =>
        Assoc.get? field (row schema [field] lang id o) := by
    intro r
    rw [schema?]
    cases hr : r.table? entity with
    | none =>
        unfold answer? read
        have hnone : r.tableOf entity = .error (.unknownEntity entity) := by rw [tableOf, hr]
        rw [hnone]
        rfl
    | some t => rw [answer?_of_table? hr, object?_of_table? hr, Option.map_some, Option.bind_some]
  rw [hanswer, hanswer, hschema, hobject]

end Answer

end HttpExchange.Store
