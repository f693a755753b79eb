import HttpExchange.Proofs.Form.Growth

/-!
# The leaves of a value

What is written of a value is, for each text at an end of it, the way there and
the text. Writing is a matter of these leaves only: it puts the ways into names.
An insertion adds one leaf at most, and recognising arrays takes none away, so a
form has no more leaves than pairs.

## Main definitions

* `leaves`, `leavesMembers` — the texts of a value, each with the way to it.

## Main results

* `pairsOf_eq` — the pairs of an object are its leaves.
* `length_leaves_collect` — a form has no more leaves than pairs.
* `length_leaves_withLists` — recognising arrays keeps the number of leaves.
-/

namespace HttpExchange.Form

/-- The way to a member of an object and on from there. -/
def Key.steps (key : Key) : List Text := key.base :: key.path

mutual

/-- The texts at the ends of a value, each with the names and indices on the way to it. -/
def leaves : Json → List (List Text × Text)
  | .obj members => (leavesMembers members).map fun e => (e.1.steps, e.2)
  | .arr items => (leavesItems 0 items).map fun e => (e.1.steps, e.2)
  | v => (scalarText? v).toList.map fun t => ([], t)

/-- The leaves of the items from index `i` on. -/
def leavesItems (i : Nat) : List Json → List (Key × Text)
  | [] => []
  | v :: rest =>
    (leaves v).map (fun e => (⟨Numeral.ofNat i, e.1⟩, e.2)) ++ leavesItems (i + 1) rest

/-- The leaves of some members. -/
def leavesMembers : List (Text × Json) → List (Key × Text)
  | [] => []
  | (k, v) :: rest => (leaves v).map (fun e => (⟨k, e.1⟩, e.2)) ++ leavesMembers rest

end

theorem leaves_scalar {v : Json} (h : v.isCollection = false) :
    leaves v = (scalarText? v).toList.map fun t => ([], t) := by
  cases v with
  | arr items => cases h
  | obj members => cases h
  | _ => rw [leaves] <;> exact fun _ h => nomatch h

/-- Items as members, each named by its index, from index `i` on. -/
def indexedFrom (i : Nat) (items : List Json) : Members :=
  (items.zipIdx i).map fun e => (Numeral.ofNat e.2, e.1)

theorem indexedFrom_cons (i : Nat) (v : Json) (items : List Json) :
    indexedFrom i (v :: items) = (Numeral.ofNat i, v) :: indexedFrom (i + 1) items := rfl

theorem leavesItems_eq (i : Nat) (items : List Json) :
    leavesItems i items = leavesMembers (indexedFrom i items) := by
  induction items generalizing i with
  | nil => rw [leavesItems, indexedFrom, List.zipIdx_nil, List.map_nil, leavesMembers]
  | cons v items ih => rw [leavesItems, indexedFrom_cons, leavesMembers, ih]

/-! ## Writing -/

mutual

theorem flatten_eq : ∀ (name : Text) (v : Json),
    flatten name v = (leaves v).map fun e => (nameOf name e.1, e.2)
  | name, .obj members => by
      rw [flatten, leaves, List.map_map]
      exact flattenMembers_eq name members
  | name, .arr items => by
      rw [flatten, leaves, List.map_map]
      exact flattenItems_eq name 0 items
  | _, .null | _, .bool true | _, .bool false | _, .num _ | _, .str _ => by
      rw [flatten, leaves, List.map_map] <;> simp [nameOf, Function.comp_def]

theorem flattenItems_eq : ∀ (name : Text) (i : Nat) (items : List Json),
    flattenItems name i items =
      (leavesItems i items).map fun e => (nameOf name e.1.steps, e.2)
  | _, _, [] => by simp [flattenItems, leavesItems]
  | name, i, v :: rest => by
      rw [flattenItems, leavesItems, List.map_append, List.map_map, flatten_eq _ v,
        flattenItems_eq name (i + 1) rest]
      rfl

theorem flattenMembers_eq : ∀ (name : Text) (members : List (Text × Json)),
    flattenMembers name members =
      (leavesMembers members).map fun e => (nameOf name e.1.steps, e.2)
  | _, [] => by simp [flattenMembers, leavesMembers]
  | name, (k, v) :: rest => by
      rw [flattenMembers, leavesMembers, List.map_append, List.map_map, flatten_eq _ v,
        flattenMembers_eq name rest]
      rfl

end

/-- **The pairs of an object are its leaves**, each under the name that says where it is. -/
theorem pairsOf_eq (m : Members) :
    pairsOf m = (leavesMembers m).map fun e => (nameOf e.1.base e.1.path, e.2) := by
  unfold pairsOf
  induction m with
  | nil => rw [List.flatMap_nil, leavesMembers, List.map_nil]
  | cons e rest ih =>
      obtain ⟨k, v⟩ := e
      rw [List.flatMap_cons, ih, leavesMembers, List.map_append, List.map_map]
      show flatten k v ++ _ = _
      rw [flatten_eq]
      rfl

/-! ## Counting leaves -/

@[simp] theorem length_leavesMembers_cons (k : Text) (v : Json) (rest : List (Text × Json)) :
    (leavesMembers ((k, v) :: rest)).length =
      (leaves v).length + (leavesMembers rest).length := by
  rw [leavesMembers, List.length_append, List.length_map]

@[simp] theorem length_leaves_obj (members : Members) :
    (leaves (.obj members)).length = (leavesMembers members).length := by
  rw [leaves, List.length_map]

@[simp] theorem length_leaves_str (t : Text) : (leaves (.str t)).length = 1 := by
  rw [leaves_scalar rfl]
  rfl

/-- Writing a member takes away the leaves that were there and adds those of the value. -/
theorem length_leavesMembers_set (name : Text) (v : Json) (m : Members) :
    (leavesMembers (Assoc.set name v m)).length +
        ((Assoc.get? name m).map fun u => (leaves u).length).getD 0 =
      (leavesMembers m).length + (leaves v).length := by
  induction m with
  | nil => simp [Assoc.set, Assoc.get?, Nat.add_comm]
  | cons e rest ih =>
      obtain ⟨k, u⟩ := e
      by_cases hk : k = name
      · simp only [Assoc.set, Assoc.get?, if_pos hk, length_leavesMembers_cons, Option.map_some,
          Option.getD_some]
        omega
      · simp only [Assoc.set, Assoc.get?, if_neg hk, length_leavesMembers_cons]
        omega

theorem length_leavesMembers_childOf (name : Text) (m : Members) :
    (leavesMembers (childOf name m)).length ≤
      ((Assoc.get? name m).map fun u => (leaves u).length).getD 0 := by
  unfold childOf
  split
  · next child hchild =>
      rw [hchild]
      exact Nat.le_of_eq (length_leaves_obj child).symm
  · rw [leavesMembers]
    exact Nat.zero_le _

/-- An insertion adds one leaf at most. -/
theorem length_leavesMembers_insertAt (t : Text) (path : List Text) (name : Text) (m : Members) :
    (leavesMembers (insertAt (.str t) path name m)).length ≤ (leavesMembers m).length + 1 := by
  induction path generalizing name m with
  | nil =>
      have hset := length_leavesMembers_set (resolve name m) (.str t) m
      rw [length_leaves_str] at hset
      show (leavesMembers (Assoc.set (resolve name m) (.str t) m)).length ≤ _
      omega
  | cons next path ih =>
      have hchild := length_leavesMembers_childOf (resolve name m) m
      have hgrown := ih next (childOf (resolve name m) m)
      have hset := length_leavesMembers_set (resolve name m)
        (.obj (insertAt (.str t) path next (childOf (resolve name m) m))) m
      rw [length_leaves_obj] at hset
      rw [insertAt]
      omega

theorem length_leavesMembers_insert (m : Members) (p : Text × Text) :
    (leavesMembers (insert m p)).length ≤ (leavesMembers m).length + 1 := by
  unfold insert
  split
  · exact length_leavesMembers_insertAt _ _ _ m
  · exact Nat.le_succ _

/-- **A form has no more leaves than pairs.** -/
theorem length_leaves_collect (ps : List (Text × Text)) :
    (leavesMembers (collect ps)).length ≤ ps.length := by
  have hfold : ∀ m, (leavesMembers (ps.foldl insert m)).length ≤
      (leavesMembers m).length + ps.length := by
    induction ps with
    | nil => exact fun m => Nat.le_refl _
    | cons p ps ih =>
        intro m
        have hstep := length_leavesMembers_insert m p
        have hrest := ih (insert m p)
        rw [List.foldl_cons, List.length_cons]
        omega
  have hall := hfold []
  rw [leavesMembers, List.length_nil, Nat.zero_add] at hall
  exact hall

/-! ## Arrays -/

theorem length_leavesItems (i : Nat) (m : Members) :
    (leavesItems i m.values).length = (leavesMembers m).length := by
  induction m generalizing i with
  | nil => simp [Assoc.values, leavesItems, leavesMembers]
  | cons e rest ih =>
      obtain ⟨k, v⟩ := e
      rw [length_leavesMembers_cons, ← ih (i + 1)]
      simp [Assoc.values, leavesItems]

theorem length_leaves_listed (m : Members) :
    (leaves (listed m)).length = (leavesMembers m).length := by
  unfold listed
  split
  · rw [leaves, List.length_map, length_leavesItems]
  · exact length_leaves_obj m

mutual

/-- **Recognising arrays keeps the number of leaves.** -/
theorem length_leaves_withLists : ∀ v : Json, (leaves (withLists v)).length = (leaves v).length
  | .obj members => by
      rw [withLists, length_leaves_listed, length_leaves_obj, length_leavesMembers_withLists]
  | .arr items => by
      rw [withLists, leaves, leaves, List.length_map, List.length_map,
        length_leavesItems_withLists]
  | .null | .bool _ | .num _ | .str _ => by rw [withLists] <;> simp

theorem length_leavesItems_withLists : ∀ (i : Nat) (items : List Json),
    (leavesItems i (withListsItems items)).length = (leavesItems i items).length
  | _, [] => by rw [withListsItems]
  | i, v :: rest => by
      rw [withListsItems, leavesItems, leavesItems, List.length_append, List.length_append,
        List.length_map, List.length_map, length_leaves_withLists v,
        length_leavesItems_withLists (i + 1) rest]

theorem length_leavesMembers_withLists : ∀ members : List (Text × Json),
    (leavesMembers (withListsMembers members)).length = (leavesMembers members).length
  | [] => by rw [withListsMembers]
  | (k, v) :: rest => by
      rw [withListsMembers, length_leavesMembers_cons, length_leavesMembers_cons,
        length_leaves_withLists v, length_leavesMembers_withLists rest]

end

end HttpExchange.Form
