import HttpExchange.Proofs.Headers.Values
import HttpExchange.Proofs.Text.Blank

/-!
# Fields that stand on lines of their own

A field is written on one line for each of its values, with a colon after the
name. It reads back when the name has no colon, neither has a line feed, and there
are no blanks around them. Fields of this kind, under names that differ by more
than case, are what their pairs put together again.

## Main results

* `WellFormed.edit` — what an edit keeps.
* `ofPairs_pairs` — the pairs of some fields make up the fields.
* `filter_edit`, `pairs_filter_edit` — an edit leaves the other fields alone.
-/

namespace HttpExchange

/-- A name that can stand before the colon of a line. -/
structure IsFieldName (name : Text) : Prop where
  nonempty : name ≠ []
  trimmed : Text.trim name = name
  colon : ':' ∉ name
  lineFeed : '\n' ∉ name

/-- A value that can stand after the colon of a line. -/
structure IsFieldValue (value : Text) : Prop where
  trimmed : Text.trim value = value
  lineFeed : '\n' ∉ value

/-- A text without blanks is a value. -/
theorem IsFieldValue.of_unblank {value : Text} (h : ∀ c ∈ value, Text.isBlank c = false) :
    IsFieldValue value := by
  refine ⟨Text.trim_of_unblank h, fun hmem => ?_⟩
  cases h '\n' hmem

namespace Headers

/-- The names of the fields, without regard to case. -/
def keys (hs : Headers) : List Text := hs.map Header.key

/-- Fields that can be written: each has a name of its own and at least one value. -/
structure WellFormed (hs : Headers) : Prop where
  distinct : (keys hs).Nodup
  names : ∀ h ∈ hs, IsFieldName h.name
  valued : ∀ h ∈ hs, h.values ≠ []
  values : ∀ h ∈ hs, ∀ v ∈ h.values, IsFieldValue v

theorem WellFormed.nil : WellFormed [] :=
  ⟨List.nodup_nil, (nomatch ·, ·), (nomatch ·, ·), (nomatch ·, ·)⟩

/-! ## Edits -/

theorem mem_edit {f : List Text → List Text} {name : Text} {hs : Headers} {h : Header}
    (hmem : h ∈ edit f name hs) :
    h ∈ hs ∨ (∃ old ∈ hs, h = { old with values := f old.values }) ∨
      h = ⟨Text.trim name, f []⟩ := by
  induction hs with
  | nil => exact .inr (.inr (List.mem_singleton.mp hmem))
  | cons old hs ih =>
      by_cases hkey : old.key = keyOf name
      · rw [edit, if_pos hkey] at hmem
        rcases List.mem_cons.mp hmem with rfl | hmem
        · exact .inr (.inl ⟨old, List.mem_cons_self, rfl⟩)
        · exact .inl (List.mem_cons_of_mem old hmem)
      · rw [edit, if_neg hkey] at hmem
        rcases List.mem_cons.mp hmem with rfl | hmem
        · exact .inl List.mem_cons_self
        · rcases ih hmem with hold | ⟨other, hother, rfl⟩ | hnew
          · exact .inl (List.mem_cons_of_mem old hold)
          · exact .inr (.inl ⟨other, List.mem_cons_of_mem old hother, rfl⟩)
          · exact .inr (.inr hnew)

theorem keys_edit (f : List Text → List Text) (name : Text) (hs : Headers) :
    keys (edit f name hs) = if keyOf name ∈ keys hs then keys hs else keys hs ++ [keyOf name] := by
  induction hs with
  | nil => rfl
  | cons h hs ih =>
      by_cases hkey : h.key = keyOf name
      · have hmem : keyOf name ∈ keys (h :: hs) := List.mem_map.mpr ⟨h, List.mem_cons_self, hkey⟩
        rw [edit, if_pos hkey, if_pos hmem]
        rfl
      · have hcons : keys (h :: edit f name hs) = h.key :: keys (edit f name hs) := rfl
        have hmem : keyOf name ∈ keys (h :: hs) ↔ keyOf name ∈ keys hs := by
          simp [keys, Ne.symm hkey]
        rw [edit, if_neg hkey, hcons, ih]
        by_cases hin : keyOf name ∈ keys hs
        · rw [if_pos hin, if_pos (hmem.mpr hin)]
          rfl
        · rw [if_neg hin, if_neg (mt hmem.mp hin)]
          rfl

theorem nodup_keys_edit {hs : Headers} (h : (keys hs).Nodup) (f : List Text → List Text)
    (name : Text) : (keys (edit f name hs)).Nodup := by
  rw [keys_edit]
  split
  · exact h
  · next hnot =>
      refine List.nodup_append.mpr ⟨h, List.pairwise_singleton _ _, ?_⟩
      rintro a ha b hb rfl
      exact hnot (List.mem_singleton.mp hb ▸ ha)

/-- An edit that leaves values there is one of well-formed fields. -/
theorem WellFormed.edit {hs : Headers} (h : hs.WellFormed) {name : Text}
    (hname : IsFieldName (Text.trim name)) {f : List Text → List Text}
    (hvalued : ∀ vs, f vs ≠ []) (hvalues : ∀ vs, (∀ v ∈ vs, IsFieldValue v) →
      ∀ v ∈ f vs, IsFieldValue v) : (edit f name hs).WellFormed where
  distinct := nodup_keys_edit h.distinct f name
  names field hfield := by
    rcases mem_edit hfield with hold | ⟨old, hold, rfl⟩ | rfl
    · exact h.names field hold
    · exact h.names old hold
    · exact hname
  valued field hfield := by
    rcases mem_edit hfield with hold | ⟨old, hold, rfl⟩ | rfl
    · exact h.valued field hold
    · exact hvalued old.values
    · exact hvalued []
  values field hfield := by
    rcases mem_edit hfield with hold | ⟨old, hold, rfl⟩ | rfl
    · exact h.values field hold
    · exact hvalues old.values (h.values old hold)
    · exact hvalues [] fun _ hv => nomatch hv

theorem WellFormed.append {hs : Headers} (h : hs.WellFormed) {name value : Text}
    (hname : IsFieldName (Text.trim name)) (hvalue : IsFieldValue value) :
    (append name value hs).WellFormed := by
  rw [append_eq_edit]
  refine h.edit hname (fun vs => by simp) fun vs hvs v hv => ?_
  rcases List.mem_append.mp hv with hv | hv
  · exact hvs v hv
  · exact List.mem_singleton.mp hv ▸ hvalue

theorem WellFormed.set {hs : Headers} (h : hs.WellFormed) {name value : Text}
    (hname : IsFieldName (Text.trim name)) (hvalue : IsFieldValue value) :
    (set name value hs).WellFormed := by
  rw [set_eq_edit]
  exact h.edit hname (fun vs => by simp) fun vs _ v hv => List.mem_singleton.mp hv ▸ hvalue

theorem WellFormed.filter {hs : Headers} (h : hs.WellFormed) (p : Header → Bool) :
    WellFormed (hs.filter p) where
  distinct := h.distinct.sublist (List.filter_sublist.map Header.key)
  names field hfield := h.names field ((List.mem_filter.mp hfield).1)
  valued field hfield := h.valued field ((List.mem_filter.mp hfield).1)
  values field hfield := h.values field ((List.mem_filter.mp hfield).1)

theorem valuesOf_of_not_mem {name : Text} {hs : Headers} (h : keyOf name ∉ keys hs)
    (hs' : Headers) : valuesOf name (hs ++ hs') = valuesOf name hs' := by
  induction hs with
  | nil => rfl
  | cons field hs ih =>
      rw [keys, List.map_cons, List.mem_cons, not_or] at h
      rw [List.cons_append, valuesOf_cons, if_neg (Ne.symm h.1)]
      exact ih h.2

/-! ## Pairs -/

theorem pairs_cons (h : Header) (hs : Headers) :
    pairs (h :: hs) = h.values.map (h.name, ·) ++ pairs hs := rfl

theorem pairs_append (hs hs' : Headers) : pairs (hs ++ hs') = pairs hs ++ pairs hs' :=
  List.flatMap_append

/-- The first value of a field is that of one of the pairs. -/
theorem exists_mem_pairs_of_get? {name value : Text} {hs : Headers}
    (h : get? name hs = some value) :
    ∃ spelled, Text.lower spelled = keyOf name ∧ (spelled, value) ∈ pairs hs := by
  rw [get?, valuesOf] at h
  cases hfield : field? name hs with
  | none =>
      rw [hfield] at h
      cases h
  | some field =>
      rw [hfield] at h
      have hkey : (field.key == keyOf name) = true :=
        List.find?_some (p := fun h : Header => h.key == keyOf name) hfield
      have hvalue : (field.name, value) ∈ field.values.map (field.name, ·) :=
        List.mem_map_of_mem (List.mem_of_mem_head? h)
      exact ⟨field.name, beq_iff_eq.mp hkey,
        List.mem_flatMap.mpr ⟨field, List.mem_of_find?_eq_some hfield, hvalue⟩⟩

theorem WellFormed.isField {hs : Headers} (h : hs.WellFormed) {field : Text × Text}
    (hfield : field ∈ pairs hs) : IsFieldName field.1 ∧ IsFieldValue field.2 := by
  obtain ⟨header, hheader, hmem⟩ := List.mem_flatMap.mp hfield
  obtain ⟨value, hvalue, rfl⟩ := List.mem_map.mp hmem
  exact ⟨h.names header hheader, h.values header hheader value hvalue⟩

/-- The pairs of the fields with some names. -/
theorem pairs_filter (p : Text → Bool) (hs : Headers) :
    (pairs hs).filter (fun field => p field.1) = pairs (hs.filter fun h => p h.name) := by
  induction hs with
  | nil => rfl
  | cons h hs ih =>
      rw [pairs_cons, List.filter_append, ih]
      by_cases hp : p h.name
      · have hall : (h.values.map (h.name, ·)).filter (fun field => p field.1) =
            h.values.map (h.name, ·) := by
          refine List.filter_eq_self.mpr fun field hfield => ?_
          obtain ⟨v, -, rfl⟩ := List.mem_map.mp hfield
          exact hp
        rw [hall, List.filter_cons_of_pos (by exact hp), pairs_cons]
      · have hnone : (h.values.map (h.name, ·)).filter (fun field => p field.1) = [] := by
          refine List.filter_eq_nil_iff.mpr fun field hfield => ?_
          obtain ⟨v, -, rfl⟩ := List.mem_map.mp hfield
          exact hp
        rw [hnone, List.filter_cons_of_neg (by exact hp), List.nil_append]

/-- An edit leaves the other fields alone. -/
theorem filter_edit {p : Header → Bool} {name : Text}
    (hp : ∀ h : Header, h.key = keyOf name → p h = false) (f : List Text → List Text)
    (hs : Headers) : (edit f name hs).filter p = hs.filter p := by
  induction hs with
  | nil =>
      have hnew : p ⟨Text.trim name, f []⟩ = false := hp _ rfl
      simp [edit, hnew]
  | cons h hs ih =>
      by_cases hkey : h.key = keyOf name
      · have hold : p h = false := hp h hkey
        have hedited : p { h with values := f h.values } = false := hp _ hkey
        rw [edit, if_pos hkey]
        simp [hold, hedited]
      · rw [edit, if_neg hkey, List.filter_cons, List.filter_cons, ih]

/-- An edit leaves the pairs of the other fields alone. -/
theorem pairs_filter_edit {p : Text → Bool} {name : Text}
    (hp : ∀ other, Text.lower other = keyOf name → p other = false) (f : List Text → List Text)
    (hs : Headers) :
    (pairs (edit f name hs)).filter (fun field => p field.1) =
      (pairs hs).filter fun field => p field.1 := by
  rw [pairs_filter, pairs_filter, filter_edit fun h hkey => hp h.name hkey]

/-! ## Fields of pairs -/

/-- A field of its own comes last. -/
theorem append_of_not_mem {name : Text} {hs : Headers} (h : keyOf name ∉ keys hs) (value : Text)
    (hs' : Headers) : append name value (hs ++ hs') = hs ++ append name value hs' := by
  induction hs with
  | nil => rfl
  | cons field hs ih =>
      rw [keys, List.map_cons, List.mem_cons, not_or] at h
      rw [List.cons_append, append, if_neg (Ne.symm h.1), ih h.2]
      rfl

/-- The values of one field, added one after the other. -/
theorem foldl_append_values {name : Text} {hs : Headers} (htrim : Text.trim name = name)
    (h : keyOf name ∉ keys hs) (old values : List Text) :
    (values.map (name, ·)).foldl (fun hs (field : Text × Text) => append field.1 field.2 hs)
      (hs ++ [⟨name, old⟩]) = hs ++ [⟨name, old ++ values⟩] := by
  induction values generalizing old with
  | nil => rw [List.append_nil]; rfl
  | cons v values ih =>
      have hkey : Header.key ⟨name, old⟩ = keyOf name := by rw [keyOf, htrim]; rfl
      rw [List.map_cons, List.foldl_cons, append_of_not_mem h, append, if_pos hkey, ih,
        List.append_assoc, List.singleton_append]

theorem foldl_append_pairs {hs hs' : Headers} (hdistinct : (keys (hs ++ hs')).Nodup)
    (htrim : ∀ h ∈ hs', Text.trim h.name = h.name) (hvalued : ∀ h ∈ hs', h.values ≠ []) :
    (pairs hs').foldl (fun hs (field : Text × Text) => append field.1 field.2 hs) hs =
      hs ++ hs' := by
  induction hs' generalizing hs with
  | nil => rw [List.append_nil]; rfl
  | cons h hs' ih =>
      obtain ⟨htrimmed, htrim⟩ := List.forall_mem_cons.mp htrim
      obtain ⟨hvalues, hvalued⟩ := List.forall_mem_cons.mp hvalued
      rw [← List.singleton_append, ← List.append_assoc] at hdistinct
      have hnew : keyOf h.name ∉ keys hs := by
        have hdisjoint := hdistinct
        rw [keys, List.map_append, List.map_append, List.nodup_append,
          List.nodup_append] at hdisjoint
        intro hmem
        refine hdisjoint.1.2.2 _ hmem h.key (by simp) ?_
        rw [keyOf, htrimmed]
        rfl
      obtain ⟨v, values, hcons⟩ := List.exists_cons_of_ne_nil hvalues
      have hnext := append_of_not_mem hnew v []
      rw [List.append_nil, append, htrimmed] at hnext
      rw [pairs_cons, List.foldl_append, hcons, List.map_cons, List.foldl_cons, hnext,
        foldl_append_values htrimmed hnew, List.singleton_append, ← hcons,
        ih hdistinct htrim hvalued, List.append_assoc]
      rfl

/-- **The pairs of some fields make up the fields.** -/
theorem ofPairs_pairs {hs : Headers} (h : hs.WellFormed) : ofPairs (pairs hs) = hs :=
  foldl_append_pairs h.distinct (fun field hfield => (h.names field hfield).trimmed) h.valued

end Headers

end HttpExchange
