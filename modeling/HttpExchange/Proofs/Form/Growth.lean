import HttpExchange.Proofs.Form.Key
import HttpExchange.Proofs.Numeral.Integer

/-!
# What insertions build

A form grows by one pair at a time. Each insertion leaves objects that have
members, each member once, under names that a bracket can hold, and with texts
at the ends; below the whole form the same holds, whose members have the names
that bases have.

## Main definitions

* `Level` — members with distinct names of some kind and values of some kind.
* `Grown` — the values that insertions build.

## Main results

* `Level.insertAt` — an insertion keeps a level one.
* `collect_level` — the pairs of any form build a level.
-/

namespace HttpExchange.Form

/-- What the name of a member below another looks like. -/
structure IsSegment (name : Text) : Prop where
  nonempty : name ≠ []
  unclosed : ']' ∉ name

instance (name : Text) : Decidable (IsSegment name) :=
  decidable_of_iff (name ≠ [] ∧ ']' ∉ name) ⟨fun h => ⟨h.1, h.2⟩, fun h => ⟨h.1, h.2⟩⟩

/-- Members with distinct names of some kind and values of some kind. -/
structure Level (P : Text → Prop) (Q : Json → Prop) (m : Members) : Prop where
  distinct : (Assoc.keys m).Nodup
  names : ∀ e ∈ m, P e.1
  values : ∀ e ∈ m, Q e.2

namespace Level

variable {P : Text → Prop} {Q : Json → Prop}

theorem nil : Level P Q [] where
  distinct := List.nodup_nil
  names := fun _ he => absurd he List.not_mem_nil
  values := fun _ he => absurd he List.not_mem_nil

theorem set {m : Members} (h : Level P Q m) {name : Text} (hname : P name) {v : Json}
    (hv : Q v) : Level P Q (Assoc.set name v m) where
  distinct := Assoc.nodup_keys_set h.distinct name v
  names := by
    rintro ⟨k, u⟩ he
    rcases Assoc.mem_set he with heq | hm
    · exact (Prod.mk.inj heq).1 ▸ hname
    · exact h.names _ hm
  values := by
    rintro ⟨k, u⟩ he
    rcases Assoc.mem_set he with heq | hm
    · exact (Prod.mk.inj heq).2 ▸ hv
    · exact h.values _ hm

end Level

/-- What insertions build: texts, and objects that are not empty. -/
inductive Grown : Json → Prop where
  | text (t : Text) : Grown (.str t)
  | branch {m : Members} : m ≠ [] → (Assoc.keys m).Nodup → (∀ e ∈ m, IsSegment e.1) →
      (∀ e ∈ m, Grown e.2) → Grown (.obj m)

theorem Grown.level {m : Members} (h : Grown (.obj m)) : Level IsSegment Grown m := by
  cases h with
  | branch hne hdistinct hnames hvalues => exact ⟨hdistinct, hnames, hvalues⟩

/-! ## One insertion -/

theorem resolve_of_ne_nil {name : Text} (h : name ≠ []) (m : Members) : resolve name m = name := by
  rw [resolve, List.isEmpty_eq_false_iff.mpr h]
  rfl

/-- An empty segment gets an index, which is a name like others. -/
theorem isSegment_resolve {name : Text} (h : ']' ∉ name) (m : Members) :
    IsSegment (resolve name m) := by
  unfold resolve
  split
  · exact ⟨Numeral.ofNat_ne_nil _, Numeral.not_mem_ofNat (by decide) _⟩
  · next hne => exact ⟨fun hnil => hne (List.isEmpty_iff.mpr hnil), h⟩

theorem Level.childOf {P : Text → Prop} {m : Members} (h : Level P Grown m) (name : Text) :
    Level IsSegment Grown (childOf name m) := by
  unfold Form.childOf
  split
  · next child hchild => exact (h.values _ (Assoc.mem_of_get? hchild)).level
  · exact Level.nil

theorem insertAt_ne_nil (value : Json) (path : List Text) (name : Text) (m : Members) :
    insertAt value path name m ≠ [] := by
  cases path with
  | nil => exact Assoc.set_ne_nil _ _ _
  | cons next path => exact Assoc.set_ne_nil _ _ _

/-- **An insertion keeps a level one**, whatever segments without closing brackets it follows. -/
theorem Level.insertAt {P : Text → Prop} {value : Json} (hvalue : Grown value) {path : List Text}
    (hpath : ∀ s ∈ path, ']' ∉ s) {name : Text} {m : Members} (h : Level P Grown m)
    (hname : P (resolve name m)) : Level P Grown (insertAt value path name m) := by
  induction path generalizing P name m with
  | nil => exact h.set hname hvalue
  | cons next path ih =>
      have hnext : ']' ∉ next := hpath next List.mem_cons_self
      have hchild := ih (fun s hs => hpath s (List.mem_cons_of_mem next hs))
        (h.childOf (resolve name m)) (isSegment_resolve hnext _)
      have hne := insertAt_ne_nil value path next (Form.childOf (resolve name m) m)
      exact h.set hname (.branch hne hchild.distinct hchild.names hchild.values)

/-! ## All insertions -/

theorem Level.insert {m : Members} (h : Level IsBase Grown m) (p : Text × Text) :
    Level IsBase Grown (insert m p) := by
  unfold Form.insert
  split
  · next key hkey =>
      have hbase := Key.isBase_of_read? hkey
      refine h.insertAt (.text p.2) (Key.not_mem_of_read? hkey) ?_
      rwa [resolve_of_ne_nil hbase.nonempty]
  · exact h

/-- **The pairs of any form build a level.** -/
theorem collect_level (ps : List (Text × Text)) : Level IsBase Grown (collect ps) := by
  have hfold : ∀ m, Level IsBase Grown m → Level IsBase Grown (ps.foldl Form.insert m) := by
    induction ps with
    | nil => exact fun m h => h
    | cons p ps ih => exact fun m h => ih _ (h.insert p)
  exact hfold [] Level.nil

end HttpExchange.Form
