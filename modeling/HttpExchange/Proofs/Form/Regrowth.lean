import HttpExchange.Proofs.Form.Leaves
import HttpExchange.Proofs.Form.Pairs
import Mathlib.Data.List.Basic

/-!
# Values grown again from their leaves

When the leaves of a value are inserted one after the other, what grows is the
value itself, less whatever has no text in it and with objects in the place of
arrays. Each member grows beside those before it, because their names differ,
and within a member the same happens one level down.

## Main definitions

* `Spelled` — values whose names can stand in brackets.
* `regrow?`, `regrowMembers` — what grows from the leaves of a value.

## Main results

* `Spelled.growsBack` — the leaves of a value grow to it.
* `parse_render` — what is read from a written object.
-/

namespace HttpExchange.Form

/-- Values in which the members of every object have distinct names that can stand in brackets. -/
inductive Spelled : Json → Prop where
  | scalar {v : Json} : v.isCollection = false → Spelled v
  | array {items : List Json} : (∀ v ∈ items, Spelled v) → Spelled (.arr items)
  | object {m : Members} : (Assoc.keys m).Nodup → (∀ e ∈ m, IsSegment e.1) →
      (∀ e ∈ m, Spelled e.2) → Spelled (.obj m)

/-! ## What grows from leaves -/

/-- An object, unless it is empty. -/
def grouped (m : Members) : Option Json := if m.isEmpty then none else some (.obj m)

mutual

/-- What grows from the leaves of a value. Nothing does when there are none. -/
def regrow? : Json → Option Json
  | .obj members => grouped (regrowMembers members)
  | .arr items => grouped (regrowItems 0 items)
  | v => (scalarText? v).map .str

/-- What grows from the items from index `i` on. -/
def regrowItems (i : Nat) : List Json → Members
  | [] => []
  | v :: rest => (regrow? v).toList.map (Numeral.ofNat i, ·) ++ regrowItems (i + 1) rest

/-- What grows from some members. -/
def regrowMembers : List (Text × Json) → Members
  | [] => []
  | (k, v) :: rest => (regrow? v).toList.map (k, ·) ++ regrowMembers rest

end

theorem regrow?_scalar {v : Json} (h : v.isCollection = false) :
    regrow? v = (scalarText? v).map .str := by
  cases v with
  | arr items => cases h
  | obj members => cases h
  | _ => rw [regrow?] <;> exact fun _ h => nomatch h

theorem regrowItems_eq (i : Nat) (items : List Json) :
    regrowItems i items = regrowMembers (indexedFrom i items) := by
  induction items generalizing i with
  | nil => rw [regrowItems, indexedFrom, List.zipIdx_nil, List.map_nil, regrowMembers]
  | cons v items ih => rw [regrowItems, indexedFrom_cons, regrowMembers, ih]

/-! ## One level -/

/-- Puts a text at its place. -/
def plant (m : Members) (e : Key × Text) : Members := insertAt (.str e.2) e.1.path e.1.base m

/-- Ways that begin with the same name are a matter of what is under that name. -/
theorem foldl_insertAt_steps {name : Text} (hname : name ≠ []) (ls : List (Key × Text))
    (m : Members) :
    ls.foldl (fun m e => insertAt (.str e.2) e.1.steps name m) m =
      if ls.isEmpty then m
      else Assoc.set name (.obj (ls.foldl plant (childOf name m))) m := by
  induction ls generalizing m with
  | nil => rfl
  | cons e ls ih =>
      have hstep : insertAt (.str e.2) e.1.steps name m =
          Assoc.set name (.obj (plant (childOf name m) e)) m := by
        rw [Key.steps, insertAt, resolve_of_ne_nil hname]
        rfl
      rw [List.foldl_cons, ih, hstep]
      have hchild : childOf name (Assoc.set name (.obj (plant (childOf name m) e)) m) =
          plant (childOf name m) e := by
        rw [childOf, Assoc.get?_set_self]
      cases ls with
      | nil => rfl
      | cons f ls =>
          rw [hchild, Assoc.set_set]
          rfl

theorem foldl_plant_ne_nil {ls : List (Key × Text)} (h : ls ≠ []) (m : Members) :
    ls.foldl plant m ≠ [] := by
  induction ls generalizing m with
  | nil => exact absurd rfl h
  | cons e ls ih =>
      cases ls with
      | nil => exact insertAt_ne_nil _ _ _ m
      | cons f ls => exact ih (List.cons_ne_nil f ls) (plant m e)

/-- A value whose leaves, inserted under a new name, grow to it. -/
def GrowsBack (v : Json) : Prop :=
  ∀ (name : Text) (m : Members), name ≠ [] → name ∉ Assoc.keys m →
    (leaves v).foldl (fun m e => insertAt (.str e.2) e.1 name m) m =
      m ++ (regrow? v).toList.map (name, ·)

/-- The leaves of members with distinct names grow one member after the other. -/
theorem foldl_leavesMembers {ms m : Members} (hdistinct : (Assoc.keys (m ++ ms)).Nodup)
    (hnames : ∀ e ∈ ms, e.1 ≠ []) (hgrow : ∀ e ∈ ms, GrowsBack e.2) :
    (leavesMembers ms).foldl plant m = m ++ regrowMembers ms := by
  induction ms generalizing m with
  | nil => rw [leavesMembers, regrowMembers, List.foldl_nil, List.append_nil]
  | cons e rest ih =>
      obtain ⟨k, v⟩ := e
      have hk : k ∉ Assoc.keys m := by
        rw [Assoc.keys, List.map_append, List.nodup_append] at hdistinct
        exact fun hmem => hdistinct.2.2 k hmem k List.mem_cons_self rfl
      have hv := hgrow (k, v) List.mem_cons_self k m (hnames (k, v) List.mem_cons_self) hk
      rw [leavesMembers, List.foldl_append, List.foldl_map, regrowMembers, ← List.append_assoc]
      show (leavesMembers rest).foldl plant
        ((leaves v).foldl (fun m e => insertAt (.str e.2) e.1 k m) m) = _
      rw [hv]
      refine ih ?_ (fun e he => hnames e (List.mem_cons_of_mem _ he))
        fun e he => hgrow e (List.mem_cons_of_mem _ he)
      cases regrow? v with
      | some w =>
          have hkeys : Assoc.keys (m ++ [(k, w)] ++ rest) = Assoc.keys (m ++ (k, v) :: rest) := by
            simp [Assoc.keys]
          exact hkeys ▸ hdistinct
      | none =>
          refine hdistinct.sublist (List.Sublist.map Prod.fst ?_)
          rw [Option.toList_none, List.map_nil, List.append_nil]
          exact (List.sublist_cons_self (k, v) rest).append_left m

theorem keys_indexedFrom (i : Nat) (items : List Json) :
    Assoc.keys (indexedFrom i items) = (List.range' i items.length).map Numeral.ofNat := by
  induction items generalizing i with
  | nil => rfl
  | cons v items ih =>
      rw [indexedFrom_cons, List.length_cons, List.range'_succ, List.map_cons, ← ih]
      rfl

theorem nodup_keys_indexedFrom (i : Nat) (items : List Json) :
    (Assoc.keys (indexedFrom i items)).Nodup := by
  rw [keys_indexedFrom]
  have hrange : (List.range' i items.length).Nodup := List.nodup_range'
  exact List.Pairwise.map Numeral.ofNat (fun _ _ hne h => hne (Numeral.ofNat_injective h)) hrange

theorem values_indexedFrom (i : Nat) (items : List Json) :
    (indexedFrom i items).values = items := by
  induction items generalizing i with
  | nil => rfl
  | cons v items ih => exact congrArg (v :: ·) (ih (i + 1))

theorem mem_indexedFrom {i : Nat} {items : List Json} {e : Text × Json}
    (h : e ∈ indexedFrom i items) : IsSegment e.1 ∧ e.2 ∈ items := by
  refine ⟨?_, ?_⟩
  · obtain ⟨⟨v, j⟩, -, rfl⟩ := List.mem_map.mp h
    exact ⟨Numeral.ofNat_ne_nil j, Numeral.not_mem_ofNat (by decide) j⟩
  · rw [← values_indexedFrom i items]
    exact List.mem_map_of_mem h

/-- A value grows back when the members of its level do. -/
theorem growsBack_of_members (ms : Members) {v : Json}
    (hleaves : leaves v = (leavesMembers ms).map fun e => (e.1.steps, e.2))
    (hregrow : regrow? v = grouped (regrowMembers ms)) (hdistinct : (Assoc.keys ms).Nodup)
    (hnames : ∀ e ∈ ms, e.1 ≠ []) (hgrow : ∀ e ∈ ms, GrowsBack e.2) : GrowsBack v := by
  intro name m hname hnew
  have hlevel := foldl_leavesMembers (m := []) (by rwa [List.nil_append]) hnames hgrow
  have hchild : childOf name m = [] := by
    rw [childOf, Assoc.get?_eq_none_iff.mpr hnew]
  rw [hleaves, List.foldl_map, foldl_insertAt_steps hname, hchild, hlevel, List.nil_append,
    hregrow, grouped]
  rw [List.nil_append] at hlevel
  cases hls : leavesMembers ms with
  | nil =>
      rw [hls, List.foldl_nil] at hlevel
      rw [← hlevel]
      exact (List.append_nil m).symm
  | cons e ls =>
      have hne : (regrowMembers ms).isEmpty = false := by
        rw [List.isEmpty_eq_false_iff, ← hlevel, hls]
        exact foldl_plant_ne_nil (List.cons_ne_nil e ls) []
      rw [hne]
      exact Assoc.set_of_not_mem hnew _

/-- **The leaves of a value grow to it.** -/
theorem Spelled.growsBack {v : Json} (h : Spelled v) : GrowsBack v := by
  induction h with
  | @scalar v hscalar =>
      intro name m hname hnew
      rw [leaves_scalar hscalar, regrow?_scalar hscalar]
      cases scalarText? v with
      | none => exact (List.append_nil m).symm
      | some t =>
          show insertAt (.str t) [] name m = m ++ [(name, .str t)]
          rw [insertAt, resolve_of_ne_nil hname, Assoc.set_of_not_mem hnew]
  | @array items _ ih =>
      refine growsBack_of_members (indexedFrom 0 items) ?_ ?_ ?_ ?_ ?_
      · rw [leaves, leavesItems_eq]
      · rw [regrow?, regrowItems_eq]
      · exact nodup_keys_indexedFrom 0 items
      · exact fun e he => (mem_indexedFrom he).1.nonempty
      · exact fun e he => ih e.2 (mem_indexedFrom he).2
  | @object m hdistinct hnames _ ih =>
      refine growsBack_of_members m (by rw [leaves]) (by rw [regrow?]) hdistinct ?_ ih
      exact fun e he => (hnames e he).nonempty

/-! ## Reading what was written -/

theorem mem_leavesMembers {m : Members} {e : Key × Text} (h : e ∈ leavesMembers m) :
    ∃ x ∈ m, e.1.base = x.1 ∧ (e.1.path, e.2) ∈ leaves x.2 := by
  induction m with
  | nil =>
      rw [leavesMembers] at h
      cases h
  | cons x rest ih =>
      obtain ⟨k, v⟩ := x
      rw [leavesMembers, List.mem_append] at h
      rcases h with h | h
      · obtain ⟨l, hl, rfl⟩ := List.mem_map.mp h
        exact ⟨(k, v), List.mem_cons_self, rfl, hl⟩
      · obtain ⟨x, hx, hbase, hpath⟩ := ih h
        exact ⟨x, List.mem_cons_of_mem _ hx, hbase, hpath⟩

/-- The way to a leaf can stand in brackets. -/
theorem Spelled.unclosed {v : Json} (h : Spelled v) :
    ∀ e ∈ leaves v, ∀ s ∈ e.1, ']' ∉ s := by
  induction h with
  | @scalar v hscalar =>
      intro e he s hs
      rw [leaves_scalar hscalar] at he
      obtain ⟨t, -, rfl⟩ := List.mem_map.mp he
      cases hs
  | @array items _ ih =>
      intro e he s hs
      rw [leaves, leavesItems_eq] at he
      obtain ⟨l, hl, rfl⟩ := List.mem_map.mp he
      obtain ⟨x, hx, hbase, hpath⟩ := mem_leavesMembers hl
      obtain ⟨hsegment, hitem⟩ := mem_indexedFrom hx
      rcases List.mem_cons.mp hs with rfl | hs
      · exact hbase ▸ hsegment.unclosed
      · exact ih x.2 hitem _ hpath s hs
  | @object m _ hnames _ ih =>
      intro e he s hs
      rw [leaves] at he
      obtain ⟨l, hl, rfl⟩ := List.mem_map.mp he
      obtain ⟨x, hx, hbase, hpath⟩ := mem_leavesMembers hl
      rcases List.mem_cons.mp hs with rfl | hs
      · exact hbase ▸ (hnames x hx).unclosed
      · exact ih x hx _ hpath s hs

/-- The pairs of an object grow to it. -/
theorem collect_pairsOf {m : Members} (h : Level IsBase Spelled m) :
    collect (pairsOf m) = regrowMembers m := by
  have hinsert : ∀ c : Members, ∀ e ∈ leavesMembers m,
      insert c (nameOf e.1.base e.1.path, e.2) = plant c e := by
    intro c e he
    obtain ⟨x, hx, hbase, hpath⟩ := mem_leavesMembers he
    have hread := Key.read?_nameOf (hbase ▸ h.names x hx) ((h.values x hx).unclosed _ hpath)
    rw [insert, hread]
    rfl
  rw [collect, pairsOf_eq, List.foldl_map, List.foldl_ext _ plant _ hinsert]
  have hgrow := foldl_leavesMembers (m := []) (by rw [List.nil_append]; exact h.distinct)
    (fun e he => (h.names e he).nonempty) fun e he => (h.values e he).growsBack
  rw [hgrow, List.nil_append]

/-- **What is read from a written object**, when the limit allows all its leaves. -/
theorem parse_render {m : Members} (h : Level IsBase Spelled m) {limit : Nat}
    (hlimit : (leavesMembers m).length ≤ limit) :
    parse limit (render m) = withListsMembers (regrowMembers m) := by
  have hlength : (pairsOf m).length ≤ limit := by
    rwa [pairsOf_eq, List.length_map]
  rw [parse, render, readPairs_writePairs, List.take_of_length_le hlength, collect_pairsOf h]

end HttpExchange.Form
