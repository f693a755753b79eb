import HttpExchange.Text.Basic

/-!
# Lists of named values

A list of pairs serves as a mapping that remembers the order in which names were
first given a value. A name is looked up at its first entry; writing to a known
name changes its entry in place, and a new name goes to the end.
-/

namespace HttpExchange

/-- Named values in order. -/
abbrev Assoc (α : Type) := List (Text × α)

namespace Assoc

variable {α β : Type}

/-- The value of a name. -/
def get? (name : Text) : Assoc α → Option α
  | [] => none
  | (k, v) :: rest => if k = name then some v else get? name rest

/-- Gives a name a value: in place when the name is known, else at the end. -/
def set (name : Text) (value : α) : Assoc α → Assoc α
  | [] => [(name, value)]
  | (k, v) :: rest => if k = name then (k, value) :: rest else (k, v) :: set name value rest

/-- Removes a name; the others keep their order. -/
def erase (name : Text) : Assoc α → Assoc α
  | [] => []
  | (k, v) :: rest => if k = name then rest else (k, v) :: erase name rest

/-- Whether a name has a value. -/
def contains (name : Text) (m : Assoc α) : Bool := (get? name m).isSome

/-- Writes the entries of `new` one after the other. -/
def setAll (m new : Assoc α) : Assoc α := new.foldl (fun m (k, v) => set k v m) m

/-- The mapping that results from writing some entries one after the other. -/
def ofList (entries : Assoc α) : Assoc α := setAll [] entries

/-- The names, in order. -/
def keys (m : Assoc α) : List Text := m.map Prod.fst

/-- The values, in order. -/
def values (m : Assoc α) : List α := m.map Prod.snd

/-- Changes every value. -/
def mapValues (f : α → β) (m : Assoc α) : Assoc β := m.map fun (k, v) => (k, f v)

/-! ## Reading what was written -/

theorem get?_set_self (name : Text) (value : α) (m : Assoc α) :
    get? name (set name value m) = some value := by
  induction m with
  | nil => simp [set, get?]
  | cons e rest ih =>
    obtain ⟨k, v⟩ := e
    by_cases h : k = name <;> simp [set, get?, h, ih]

theorem get?_set_of_ne {name other : Text} (h : other ≠ name) (value : α) (m : Assoc α) :
    get? other (set name value m) = get? other m := by
  induction m with
  | nil => simp [set, get?, h.symm]
  | cons e rest ih =>
    obtain ⟨k, v⟩ := e
    by_cases hk : k = name
    · subst hk
      simp [set, get?, h.symm]
    · simp only [set, hk, if_false, get?, ih]

theorem get?_set (name other : Text) (value : α) (m : Assoc α) :
    get? other (set name value m) = if other = name then some value else get? other m := by
  by_cases h : other = name
  · rw [if_pos h, h, get?_set_self]
  · rw [if_neg h, get?_set_of_ne h]

theorem mem_of_get? {name : Text} {value : α} {m : Assoc α} (h : get? name m = some value) :
    (name, value) ∈ m := by
  induction m with
  | nil => simp [get?] at h
  | cons e rest ih =>
    obtain ⟨k, v⟩ := e
    by_cases hk : k = name
    · simp_all [get?]
    · simp only [get?, hk, if_false] at h
      exact List.mem_cons_of_mem _ (ih h)

theorem get?_eq_none_iff {name : Text} {m : Assoc α} : get? name m = none ↔ name ∉ keys m := by
  induction m with
  | nil => simp [get?, keys]
  | cons e rest ih =>
    obtain ⟨k, v⟩ := e
    by_cases hk : k = name
    · simp [get?, keys, hk]
    · simp only [get?, hk, if_false, ih, keys, List.map_cons, List.mem_cons, Ne.symm hk, false_or]

theorem set_of_not_mem {name : Text} {m : Assoc α} (h : name ∉ keys m) (value : α) :
    set name value m = m ++ [(name, value)] := by
  induction m with
  | nil => rfl
  | cons e rest ih =>
    obtain ⟨k, v⟩ := e
    simp only [keys, List.map_cons, List.mem_cons, not_or] at h
    rw [set, if_neg (Ne.symm h.1), ih h.2, List.cons_append]

theorem keys_set_of_mem {name : Text} {m : Assoc α} (h : name ∈ keys m) (value : α) :
    keys (set name value m) = keys m := by
  induction m with
  | nil => cases h
  | cons e rest ih =>
    obtain ⟨k, v⟩ := e
    by_cases hk : k = name
    · simp [set, hk, keys]
    · simp only [keys, List.map_cons, List.mem_cons, Ne.symm hk, false_or] at h
      simp only [set, if_neg hk, keys, List.map_cons]
      exact congrArg (k :: ·) (ih h)

/-- Writing a name keeps the names distinct. -/
theorem nodup_keys_set {m : Assoc α} (h : (keys m).Nodup) (name : Text) (value : α) :
    (keys (set name value m)).Nodup := by
  by_cases hname : name ∈ keys m
  · rwa [keys_set_of_mem hname]
  · rw [set_of_not_mem hname, keys, List.map_append, List.nodup_append]
    refine ⟨h, List.nodup_cons.mpr ⟨List.not_mem_nil, List.nodup_nil⟩, ?_⟩
    rintro k hk l hl rfl
    have hkname : k = name := List.mem_singleton.mp hl
    exact hname (hkname ▸ hk)

theorem set_set (name : Text) (first second : α) (m : Assoc α) :
    set name second (set name first m) = set name second m := by
  induction m with
  | nil => simp [set]
  | cons e rest ih =>
    obtain ⟨k, v⟩ := e
    by_cases hk : k = name
    · simp [set, hk]
    · simp [set, hk, ih]

theorem set_ne_nil (name : Text) (value : α) (m : Assoc α) : set name value m ≠ [] := by
  cases m with
  | nil => exact List.cons_ne_nil _ _
  | cons e rest =>
    rw [set]
    split <;> exact List.cons_ne_nil _ _

theorem mem_set {name k : Text} {value v : α} {m : Assoc α} (h : (k, v) ∈ set name value m) :
    (k, v) = (name, value) ∨ (k, v) ∈ m := by
  induction m with
  | nil => exact Or.inl (List.mem_singleton.mp h)
  | cons e rest ih =>
    obtain ⟨l, w⟩ := e
    by_cases hl : l = name
    · simp only [set, if_pos hl, List.mem_cons] at h
      rcases h with h | h
      · exact Or.inl (by rw [h, hl])
      · exact Or.inr (List.mem_cons_of_mem _ h)
    · simp only [set, if_neg hl, List.mem_cons] at h
      rcases h with h | h
      · exact Or.inr (h ▸ List.mem_cons_self)
      · exact (ih h).imp_right (List.mem_cons_of_mem _)

/-- Every entry of a mapping that was written entry by entry is one of those. -/
theorem mem_setAll {k : Text} {v : α} {m new : Assoc α} (h : (k, v) ∈ setAll m new) :
    (k, v) ∈ m ∨ (k, v) ∈ new := by
  induction new generalizing m with
  | nil => exact Or.inl h
  | cons e rest ih =>
    obtain ⟨l, w⟩ := e
    rcases ih h with hm | hrest
    · rcases mem_set hm with heq | hm
      · exact Or.inr (heq ▸ List.mem_cons_self)
      · exact Or.inl hm
    · exact Or.inr (List.mem_cons_of_mem _ hrest)

theorem mem_ofList {k : Text} {v : α} {entries : Assoc α} (h : (k, v) ∈ ofList entries) :
    (k, v) ∈ entries :=
  (mem_setAll h).resolve_left List.not_mem_nil

/-- A name to which only one value is given has that value. -/
theorem get?_setAll_of_forall {name : Text} {value : α} {m new : Assoc α}
    (h : ∀ e ∈ new, e.1 = name → e.2 = value) :
    get? name (setAll m new) = if name ∈ keys new then some value else get? name m := by
  induction new generalizing m with
  | nil => rfl
  | cons e rest ih =>
    obtain ⟨k, v⟩ := e
    have hrest := ih (m := set k v m) fun e he => h e (List.mem_cons_of_mem _ he)
    change get? name (setAll (set k v m) rest) = _
    rw [hrest, get?_set, keys, keys, List.map_cons]
    by_cases hk : name = k
    · have hv : v = value := h (k, v) List.mem_cons_self hk.symm
      rw [if_pos hk, if_pos (List.mem_cons.mpr (Or.inl hk)), hv, ite_self]
    · simp only [List.mem_cons, hk, false_or, if_false]

/-- Leaving out entries by their names does not change what the other names have. -/
theorem get?_filter (p : Text → Bool) (name : Text) (m : Assoc α) :
    get? name (m.filter fun e => p e.1) = if p name then get? name m else none := by
  induction m with
  | nil => simp [get?]
  | cons e rest ih =>
    obtain ⟨k, v⟩ := e
    by_cases hp : p k <;> by_cases hk : k = name
    · subst hk
      simp [get?, hp]
    · simp [get?, hp, hk, ih]
    · subst hk
      simp [hp, ih]
    · simp [get?, hp, hk, ih]

end Assoc

end HttpExchange
