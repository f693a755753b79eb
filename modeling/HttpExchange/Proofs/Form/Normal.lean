import HttpExchange.Proofs.Form.RoundTrip

/-!
# What a form keeps of a value

A form has texts and names only. Of a value it keeps the scalars that have a
text, and the names and indices on the way to them. Null has no text, so it is
lost, and so is every collection without a scalar in it; the items of an array
go by their indices, so an array in which something was lost comes back as an
object. On the other hand an object whose names read as the indices of an array
comes back as that array. All this makes up the normal form of a value, and a
value that is written and read again comes back in it.

## Main definitions

* `CountsUp` — members whose names read as the indices of an array.
* `normal?`, `normalMembers` — the normal form of a value, and of the members of a form.
* `IsName` — what may name a member of a form.

## Main results

* `withLists_regrow?` — what grows from the leaves of a value becomes its normal form.
* `parse_render_eq_normal` — what is read from a written object is its normal form.
-/

namespace HttpExchange.Form

/-! ## Normal forms -/

/-- Whether the names of some members read, in order, as the indices of an array. -/
def CountsUp (m : Members) : Prop :=
  (Assoc.keys m).map Numeral.readNat64? = (List.range m.length).map some

instance (m : Members) : Decidable (CountsUp m) := by
  unfold CountsUp
  infer_instance

/-- Members as a value: an array if their names count up, else an object, and nothing if there are
none. -/
def arranged (m : Members) : Option Json :=
  if m = [] then none
  else if CountsUp m then some (.arr m.values)
  else some (.obj m)

mutual

/-- The normal form of a value. There is none when no scalar but null is in it. -/
def normal? : Json → Option Json
  | .obj members => arranged (normalMembers members)
  | .arr items => arranged (normalItems 0 items)
  | .null => none
  | .bool b => some (.str (if b then ['1'] else ['0']))
  | .num numeral => some (.str numeral)
  | .str t => some (.str t)

/-- The normal forms of the items from index `i` on, under their indices. -/
def normalItems (i : Nat) : List Json → Members
  | [] => []
  | v :: rest => (normal? v).toList.map (Numeral.ofNat i, ·) ++ normalItems (i + 1) rest

/-- The normal forms of some members, under their names. -/
def normalMembers : List (Text × Json) → Members
  | [] => []
  | (k, v) :: rest => (normal? v).toList.map (k, ·) ++ normalMembers rest

end

/-- What may name a member of a form: something that does not begin with a blank, without the
characters that mean something else in such a name. -/
structure IsName (name : Text) : Prop where
  nonempty : name ≠ []
  unblank : ∀ c ∈ name.head?, Text.isBlank c = false
  dot : '.' ∉ name
  space : ' ' ∉ name
  bracket : '[' ∉ name

instance (name : Text) : Decidable (IsName name) :=
  decidable_of_iff (name ≠ [] ∧ (∀ c ∈ name.head?, Text.isBlank c = false) ∧ '.' ∉ name ∧
      ' ' ∉ name ∧ '[' ∉ name)
    ⟨fun ⟨hne, hblank, hdot, hspace, hbracket⟩ => ⟨hne, hblank, hdot, hspace, hbracket⟩,
      fun h => ⟨h.nonempty, h.unblank, h.dot, h.space, h.bracket⟩⟩

theorem IsName.isBase {name : Text} (h : IsName name) : IsBase name where
  nonempty := h.nonempty
  unblank := h.unblank
  plain := by
    intro c hc
    have hdot : c ≠ '.' := fun heq => h.dot (heq ▸ hc)
    have hspace : c ≠ ' ' := fun heq => h.space (heq ▸ hc)
    have hbracket : c ≠ '[' := fun heq => h.bracket (heq ▸ hc)
    simp [Key.baseChar, hdot, hspace, hbracket]

theorem Level.imp {P P' : Text → Prop} {Q : Json → Prop} {m : Members} (h : Level P Q m)
    (himp : ∀ t, P t → P' t) : Level P' Q m where
  distinct := h.distinct
  names := fun e he => himp e.1 (h.names e he)
  values := h.values

/-! ## Arrays -/

theorem countsFrom_iff (n : Nat) (m : Members) :
    countsFrom n m = true ↔
      (Assoc.keys m).map Numeral.readNat64? = (List.range' n m.length).map some := by
  induction m generalizing n with
  | nil => simp [countsFrom, Assoc.keys]
  | cons e rest ih =>
      obtain ⟨k, v⟩ := e
      rw [countsFrom, Bool.and_eq_true, beq_iff_eq, ih (n + 1), List.length_cons, List.range'_succ]
      show _ ↔ Numeral.readNat64? k :: (Assoc.keys rest).map Numeral.readNat64? =
        some n :: (List.range' (n + 1) rest.length).map some
      rw [List.cons.injEq]

theorem countsUp_iff (m : Members) : CountsUp m ↔ countsFrom 0 m = true := by
  rw [countsFrom_iff, CountsUp, List.range_eq_range']

/-- Recognising arrays arranges what has grown. -/
theorem withLists_grouped (m : Members) :
    (grouped m).map withLists = arranged (withListsMembers m) := by
  cases m with
  | nil => rfl
  | cons e rest =>
      obtain ⟨k, v⟩ := e
      have hne : withListsMembers ((k, v) :: rest) ≠ [] := by
        rw [withListsMembers]
        exact List.cons_ne_nil _ _
      have hempty : (withListsMembers ((k, v) :: rest)).isEmpty = false :=
        List.isEmpty_eq_false_iff.mpr hne
      rw [arranged, if_neg hne]
      show some (withLists (.obj ((k, v) :: rest))) = _
      rw [withLists, listed, hempty]
      by_cases hcounts : countsFrom 0 (withListsMembers ((k, v) :: rest)) = true
      · rw [if_pos ((countsUp_iff _).mpr hcounts), hcounts]
        rfl
      · rw [if_neg (fun h => hcounts ((countsUp_iff _).mp h)), Bool.not_eq_true _ |>.mp hcounts]
        rfl

/-! ## What grows from leaves -/

theorem withListsMembers_append (m m' : Members) :
    withListsMembers (m ++ m') = withListsMembers m ++ withListsMembers m' := by
  rw [withListsMembers_eq, withListsMembers_eq, withListsMembers_eq]
  exact List.map_append

/-- A member that may be missing. -/
theorem withListsMembers_toList (k : Text) (v : Option Json) :
    withListsMembers (v.toList.map (k, ·)) = (v.map withLists).toList.map (k, ·) := by
  cases v with
  | none => rfl
  | some v => rfl

mutual

/-- **What grows from the leaves of a value becomes its normal form.** -/
theorem withLists_regrow? : ∀ v : Json, (regrow? v).map withLists = normal? v
  | .obj members => by
      rw [regrow?, normal?, withLists_grouped, withListsMembers_regrowMembers members]
  | .arr items => by
      rw [regrow?, normal?, withLists_grouped, withListsMembers_regrowItems 0 items]
  | .null => rfl
  | .bool b => by cases b <;> rfl
  | .num numeral => rfl
  | .str t => rfl

theorem withListsMembers_regrowItems : ∀ (i : Nat) (items : List Json),
    withListsMembers (regrowItems i items) = normalItems i items
  | _, [] => rfl
  | i, v :: rest => by
      rw [regrowItems, normalItems, withListsMembers_append, withListsMembers_toList,
        withLists_regrow? v, withListsMembers_regrowItems (i + 1) rest]

theorem withListsMembers_regrowMembers : ∀ members : List (Text × Json),
    withListsMembers (regrowMembers members) = normalMembers members
  | [] => rfl
  | (k, v) :: rest => by
      rw [regrowMembers, normalMembers, withListsMembers_append, withListsMembers_toList,
        withLists_regrow? v, withListsMembers_regrowMembers rest]

end

/-! ## Reading what was written -/

/-- **What is read from a written object is its normal form**, order of members included, when the
limit allows all scalars that have a text. -/
theorem parse_render_eq_normal {m : Members} (h : Level IsName Spelled m) {limit : Nat}
    (hlimit : (leavesMembers m).length ≤ limit) : parse limit (render m) = normalMembers m := by
  have hlevel : Level IsBase Spelled m := h.imp fun _ hname => hname.isBase
  rw [parse_render hlevel hlimit]
  exact withListsMembers_regrowMembers m

/-- An order in which all of it happens: an array that loses its first item and becomes an object,
an object that loses a member after which its names count up, so that it becomes an array, and a
member of which nothing is left. -/
theorem order_parse_render_eq_normal :
    let sold : Json := .obj [("sold", .bool true)]
    let items : Json := .arr [.null, sold, .num "1.50"]
    let rows : Json := .obj [("00", .str "p"), ("+2", .arr [.null]), ("1", .str "[q]&")]
    let m : Members := [("items", items), ("rows", rows), ("none", .null)]
    let kept : Members :=
      [("items", .obj [("1", .obj [("sold", .str "1")]), ("2", .str "1.50")]),
        ("rows", .arr [.str "p", .str "[q]&"])]
    Level IsName Spelled m ∧ (leavesMembers m).length ≤ 4 ∧ parse 4 (render m) = kept := by
  intro sold items rows m kept
  have hsold : Spelled sold := by
    refine .object (by decide) (by decide) ?_
    exact List.forall_mem_singleton.mpr (.scalar rfl)
  have hitems : Spelled items := by
    refine .array ?_
    simp only [List.forall_mem_cons]
    exact ⟨.scalar rfl, hsold, .scalar rfl, fun _ hv => nomatch hv⟩
  have hrows : Spelled rows := by
    refine .object (by decide) (by decide) ?_
    simp only [List.forall_mem_cons]
    refine ⟨.scalar rfl, .array ?_, .scalar rfl, fun _ hv => nomatch hv⟩
    exact List.forall_mem_singleton.mpr (.scalar rfl)
  have hvalues : ∀ e ∈ m, Spelled e.2 := by
    simp only [m, List.forall_mem_cons]
    exact ⟨hitems, hrows, .scalar rfl, fun _ he => nomatch he⟩
  have hlevel : Level IsName Spelled m := ⟨by decide, by decide, hvalues⟩
  have hlimit : (leavesMembers m).length ≤ 4 := by decide
  refine ⟨hlevel, hlimit, ?_⟩
  rw [parse_render_eq_normal hlevel hlimit]
  decide +kernel

end HttpExchange.Form
