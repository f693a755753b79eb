import HttpExchange.Assoc

/-!
# What a list of named values gives back

Of distinct names, each has the value that it is listed with, and what is written
last under distinct names is what they have. Changing every value leaves the
names alone.

## Main results

* `get?_of_mem`, `get?_setAll_of_mem`, `get?_setAll` — the values of distinct names.
* `filter_ofList` — entries may be left out before or after they are written.
* `keys_ofList`, `get?_ofList_append` — what names are left of entries that repeat some, and
  with which values.
* `ofList_of_nodup` — entries that repeat no name are left as they are.
* `keys_mapValues`, `get?_mapValues` — names and values after every value was changed.
-/

namespace HttpExchange

namespace Assoc

variable {α β : Type}

/-- Of distinct names, each has the value it is listed with. -/
theorem get?_of_mem {m : Assoc α} (hdistinct : (keys m).Nodup) {name : Text} {value : α}
    (h : (name, value) ∈ m) : get? name m = some value := by
  induction m with
  | nil => cases h
  | cons e rest ih =>
      obtain ⟨k, v⟩ := e
      obtain ⟨hk, hrest⟩ := List.nodup_cons.mp hdistinct
      rcases List.mem_cons.mp h with heq | hmem
      · obtain ⟨rfl, rfl⟩ := Prod.mk.inj heq
        exact if_pos rfl
      · have hne : k ≠ name := by
          rintro rfl
          exact hk (List.mem_map.mpr ⟨_, hmem, rfl⟩)
        rw [get?, if_neg hne]
        exact ih hrest hmem

/-- A name that is written anew and removed is removed. -/
theorem erase_set (name : Text) (value : α) (m : Assoc α) :
    erase name (set name value m) = erase name m := by
  induction m with
  | nil => exact if_pos rfl
  | cons e rest ih =>
      obtain ⟨k, v⟩ := e
      by_cases hk : k = name
      · rw [set, if_pos hk, erase, erase, if_pos hk, if_pos hk]
      · rw [set, if_neg hk, erase, erase, if_neg hk, if_neg hk, ih]

/-- What is written under distinct names is found before what was there. -/
theorem get?_setAll {new : Assoc α} (hdistinct : (keys new).Nodup) (name : Text) (m : Assoc α) :
    get? name (setAll m new) = (get? name new <|> get? name m) := by
  induction new generalizing m with
  | nil => rfl
  | cons e rest ih =>
      obtain ⟨k, v⟩ := e
      obtain ⟨hk, hrest⟩ := List.nodup_cons.mp hdistinct
      change get? name (setAll (set k v m) rest) = _
      rw [ih hrest, get?_set, get?]
      by_cases hname : k = name
      · subst hname
        rw [if_pos rfl, if_pos rfl, get?_eq_none_iff.mpr hk]
        rfl
      · rw [if_neg (Ne.symm hname), if_neg hname]

/-- What is written last under distinct names is what they have. -/
theorem get?_setAll_of_mem {m new : Assoc α} (hdistinct : (keys new).Nodup) {name : Text}
    {value : α} (h : (name, value) ∈ new) : get? name (setAll m new) = some value := by
  rw [get?_setAll hdistinct, get?_of_mem hdistinct h]
  rfl

/-! ## Entries left out by their names -/

theorem filter_set (p : Text → Bool) (name : Text) (value : α) (m : Assoc α) :
    (set name value m).filter (fun e => p e.1) =
      if p name then set name value (m.filter fun e => p e.1) else m.filter fun e => p e.1 := by
  induction m with
  | nil => by_cases hp : p name <;> simp [set, hp]
  | cons e rest ih =>
      obtain ⟨k, v⟩ := e
      by_cases hk : k = name
      · subst hk
        by_cases hp : p k <;> simp [set, hp]
      · by_cases hp : p name <;> by_cases hp' : p k <;> simp_all [set]

theorem filter_setAll (p : Text → Bool) (m new : Assoc α) :
    (setAll m new).filter (fun e => p e.1) =
      setAll (m.filter fun e => p e.1) (new.filter fun e => p e.1) := by
  induction new generalizing m with
  | nil => rfl
  | cons e rest ih =>
      change (setAll (set e.1 e.2 m) rest).filter _ = _
      rw [ih, filter_set]
      by_cases hp : p e.1
      · rw [if_pos hp, List.filter_cons_of_pos (by exact hp)]
        rfl
      · rw [if_neg hp, List.filter_cons_of_neg (by exact hp)]

/-- Entries may be left out before or after they are written. -/
theorem filter_ofList (p : Text → Bool) (entries : Assoc α) :
    (ofList entries).filter (fun e => p e.1) = ofList (entries.filter fun e => p e.1) :=
  filter_setAll p [] entries

theorem setAll_append (m a b : Assoc α) : setAll m (a ++ b) = setAll (setAll m a) b :=
  List.foldl_append

/-! ## Entries that repeat names -/

theorem keys_setAll (m new : Assoc α) :
    keys (setAll m new) = keys m ++ ((keys new).removeAll (keys m)).eraseDups := by
  induction new generalizing m with
  | nil => exact (List.append_nil (keys m)).symm
  | cons e rest ih =>
      obtain ⟨k, v⟩ := e
      change keys (setAll (set k v m) rest) =
        keys m ++ ((k :: keys rest).removeAll (keys m)).eraseDups
      rw [ih, List.cons_removeAll]
      by_cases hk : k ∈ keys m
      · rw [keys_set_of_mem hk, if_neg (by simpa using hk)]
      · have hset : keys (set k v m) = keys m ++ [k] := by
          rw [set_of_not_mem hk, keys, List.map_append]
          rfl
        have hrest : (keys rest).removeAll (keys m ++ [k]) =
            ((keys rest).removeAll (keys m)).filter fun l => !l == k := by
          unfold List.removeAll
          rw [List.filter_filter]
          refine List.filter_congr fun l _ => ?_
          by_cases hl : l = k <;> simp [hl]
        rw [hset, hrest, if_pos (by simpa using hk), List.eraseDups_cons, List.append_assoc]
        rfl

/-- **Each name is kept once**, where it stood first. -/
theorem keys_ofList (entries : Assoc α) : keys (ofList entries) = (keys entries).eraseDups := by
  have hkeys := keys_setAll [] entries
  have hall : (keys entries).removeAll [] = keys entries := List.removeAll_nil
  rw [show keys ([] : Assoc α) = [] from rfl, List.nil_append, hall] at hkeys
  exact hkeys

theorem nodup_keys_setAll {m : Assoc α} (h : (keys m).Nodup) (new : Assoc α) :
    (keys (setAll m new)).Nodup := by
  induction new generalizing m with
  | nil => exact h
  | cons e rest ih => exact ih (nodup_keys_set h e.1 e.2)

theorem nodup_keys_ofList (entries : Assoc α) : (keys (ofList entries)).Nodup :=
  nodup_keys_setAll (m := []) List.nodup_nil entries

/-- Distinct names that are new go to the end. -/
theorem setAll_of_nodup {m new : Assoc α} (h : (keys (m ++ new)).Nodup) :
    setAll m new = m ++ new := by
  induction new generalizing m with
  | nil => exact (List.append_nil m).symm
  | cons e rest ih =>
      obtain ⟨k, v⟩ := e
      have hshape : m ++ (k, v) :: rest = m ++ [(k, v)] ++ rest := by simp
      have hk : k ∉ keys m := by
        rw [keys, List.map_append, List.nodup_append] at h
        exact fun hmem => h.2.2 k hmem k List.mem_cons_self rfl
      rw [hshape] at h
      change setAll (set k v m) rest = _
      rw [set_of_not_mem hk, ih h, hshape]

theorem ofList_of_nodup {entries : Assoc α} (h : (keys entries).Nodup) : ofList entries = entries :=
  setAll_of_nodup h

theorem length_set_le (name : Text) (value : α) (m : Assoc α) :
    (set name value m).length ≤ m.length + 1 := by
  by_cases hname : name ∈ keys m
  · have hlength := congrArg List.length (keys_set_of_mem hname value)
    rw [keys, keys, List.length_map, List.length_map] at hlength
    omega
  · rw [set_of_not_mem hname, List.length_append]
    exact Nat.le_refl _

theorem length_setAll_le (m new : Assoc α) : (setAll m new).length ≤ m.length + new.length := by
  induction new generalizing m with
  | nil => exact Nat.le_refl _
  | cons e rest ih =>
      have hrest := ih (set e.1 e.2 m)
      have hset := length_set_le e.1 e.2 m
      change (setAll (set e.1 e.2 m) rest).length ≤ m.length + (rest.length + 1)
      omega

/-- When no entry is lost, the entries go to the end as they are. -/
theorem setAll_of_length_le {m new : Assoc α} (h : m.length + new.length ≤ (setAll m new).length) :
    setAll m new = m ++ new := by
  induction new generalizing m with
  | nil => exact (List.append_nil m).symm
  | cons e rest ih =>
      have hrest := length_setAll_le (set e.1 e.2 m) rest
      change m.length + (rest.length + 1) ≤ (setAll (set e.1 e.2 m) rest).length at h
      by_cases hname : e.1 ∈ keys m
      · have hlength := congrArg List.length (keys_set_of_mem hname e.2)
        rw [keys, keys, List.length_map, List.length_map] at hlength
        omega
      · have hset := set_of_not_mem hname e.2
        change setAll (set e.1 e.2 m) rest = _
        rw [hset] at h ⊢
        rw [ih (by rw [List.length_append]; simp only [List.length_singleton]; omega),
          List.append_assoc]
        rfl

theorem length_ofList_le (entries : Assoc α) : (ofList entries).length ≤ entries.length :=
  Nat.le_trans (length_setAll_le [] entries) (Nat.le_of_eq (Nat.zero_add _))

theorem ofList_of_length_le {entries : Assoc α} (h : entries.length ≤ (ofList entries).length) :
    ofList entries = entries :=
  setAll_of_length_le (Nat.le_trans (Nat.le_of_eq (Nat.zero_add _)) h)

/-- **A name has the value that it is given last.** -/
theorem get?_ofList_append {name : Text} {after : Assoc α} (h : name ∉ keys after) (value : α)
    (before : Assoc α) : get? name (ofList (before ++ (name, value) :: after)) = some value := by
  have hother : ∀ e ∈ after, e.1 = name → e.2 = value := by
    rintro e he rfl
    exact absurd (List.mem_map.mpr ⟨e, he, rfl⟩) h
  rw [ofList, setAll_append]
  change get? name (setAll (set name value (setAll [] before)) after) = some value
  rw [get?_setAll_of_forall hother, if_neg h, get?_set_self]

/-! ## Changing every value -/

theorem keys_mapValues (f : α → β) (m : Assoc α) : keys (mapValues f m) = keys m := by
  rw [keys, mapValues, List.map_map]
  rfl

theorem mem_mapValues {f : α → β} {m : Assoc α} {e : Text × β} (h : e ∈ mapValues f m) :
    ∃ x ∈ m, e = (x.1, f x.2) := by
  obtain ⟨x, hx, rfl⟩ := List.mem_map.mp h
  exact ⟨x, hx, rfl⟩

/-- Values that are changed under distinct names keep their places. -/
theorem ofList_mapValues {m : Assoc α} (h : (keys m).Nodup) (f : α → β) :
    ofList (mapValues f m) = mapValues f m :=
  ofList_of_nodup (by rwa [keys_mapValues])

theorem get?_mapValues (f : α → β) (name : Text) (m : Assoc α) :
    get? name (mapValues f m) = (get? name m).map f := by
  induction m with
  | nil => rfl
  | cons e rest ih =>
      obtain ⟨k, v⟩ := e
      by_cases hk : k = name
      · rw [mapValues, List.map_cons, get?, get?, if_pos hk, if_pos hk]
        rfl
      · rw [mapValues, List.map_cons, get?, get?, if_neg hk, if_neg hk]
        exact ih

end Assoc

end HttpExchange
