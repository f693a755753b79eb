import HttpExchange.Proofs.Assoc
import HttpExchange.Proofs.Form.Regrowth

/-!
# Forms that are written and read again

A value that came out of a form has a text at every end, so nothing of it is
lost when it is written. Its arrays are written with the indices of their items,
which count, so the arrays are found again. And it has no more leaves than the
form had pairs, so the limit that let the form through lets all of them through.

## Main results

* `Grown.spelled_withLists` — what comes out of a form can be written.
* `Grown.comesBack` — and comes back as it was.
* `parse_render_parse` — a form that is written and read again stays the same.
-/

namespace HttpExchange.Form

/-! ## Arrays found again -/

theorem withListsMembers_eq (m : Members) : withListsMembers m = Assoc.mapValues withLists m := by
  induction m with
  | nil => rw [withListsMembers, Assoc.mapValues, List.map_nil]
  | cons e rest ih =>
      obtain ⟨k, v⟩ := e
      rw [withListsMembers, ih, Assoc.mapValues, Assoc.mapValues, List.map_cons]

theorem keys_withListsMembers (m : Members) : Assoc.keys (withListsMembers m) = Assoc.keys m := by
  rw [withListsMembers_eq, Assoc.keys_mapValues]

theorem mem_withListsMembers {m : Members} {e : Text × Json} (h : e ∈ withListsMembers m) :
    ∃ x ∈ m, e = (x.1, withLists x.2) := by
  rw [withListsMembers_eq] at h
  exact Assoc.mem_mapValues h

/-- Recognising arrays leaves a level one. -/
theorem level_withListsMembers {P : Text → Prop} {Q R : Json → Prop} {m : Members}
    (h : Level P Q m) (hvalues : ∀ e ∈ m, R (withLists e.2)) : Level P R (withListsMembers m) where
  distinct := by
    rw [keys_withListsMembers]
    exact h.distinct
  names := by
    intro e he
    obtain ⟨x, hx, rfl⟩ := mem_withListsMembers he
    exact h.names x hx
  values := by
    intro e he
    obtain ⟨x, hx, rfl⟩ := mem_withListsMembers he
    exact hvalues x hx

theorem Grown.spelled_withLists {v : Json} (h : Grown v) : Spelled (withLists v) := by
  induction h with
  | text t => exact .scalar rfl
  | @branch m _ hdistinct hnames hvalues ih =>
      have hlevel : Level IsSegment Spelled (withListsMembers m) :=
        level_withListsMembers ⟨hdistinct, hnames, hvalues⟩ ih
      rw [withLists, listed]
      split
      · refine .array fun v hv => ?_
        obtain ⟨e, he, rfl⟩ := List.mem_map.mp hv
        exact hlevel.values e he
      · exact .object hlevel.distinct hlevel.names hlevel.values

/-- A value in which arrays have been recognised, and which grows back to one in which the same
arrays are recognised. -/
def ComesBack (v : Json) : Prop := ∃ u, regrow? v = some u ∧ withLists u = v

theorem withLists_regrowMembers {m : Members} (h : ∀ e ∈ m, ComesBack e.2) :
    withListsMembers (regrowMembers m) = m := by
  induction m with
  | nil => rw [regrowMembers, withListsMembers]
  | cons e rest ih =>
      obtain ⟨k, v⟩ := e
      obtain ⟨u, hu, hv⟩ := h (k, v) List.mem_cons_self
      simp only at hu hv
      have hrest := ih fun e he => h e (List.mem_cons_of_mem _ he)
      rw [regrowMembers, hu]
      show withListsMembers ((k, u) :: regrowMembers rest) = _
      rw [withListsMembers, hv, hrest]

/-- Members that come back make a value that does. -/
theorem comesBack_of_members {v : Json} {ms : Members}
    (hregrow : regrow? v = grouped (regrowMembers ms)) (hne : ms ≠ [])
    (hmembers : ∀ e ∈ ms, ComesBack e.2) (hlisted : listed ms = v) : ComesBack v := by
  have hback := withLists_regrowMembers hmembers
  have hempty : (regrowMembers ms).isEmpty = false := by
    rw [List.isEmpty_eq_false_iff]
    intro hnil
    rw [hnil, withListsMembers] at hback
    exact hne hback.symm
  refine ⟨.obj (regrowMembers ms), ?_, ?_⟩
  · rw [hregrow, grouped, hempty]
    rfl
  · rw [withLists, hback, hlisted]

/-- Names that count can be replaced by the indices they count as. -/
theorem countsFrom_indexedFrom {n : Nat} {m : Members} (h : countsFrom n m = true) :
    countsFrom n (indexedFrom n m.values) = true := by
  induction m generalizing n with
  | nil => rfl
  | cons e rest ih =>
      obtain ⟨k, v⟩ := e
      rw [countsFrom, Bool.and_eq_true, beq_iff_eq] at h
      have hbound : n ≤ Numeral.maxNat64 := Numeral.le_of_readNat? h.1
      have hindex : Numeral.readNat64? (Numeral.ofNat n) = some n := Numeral.readNat?_ofNat hbound
      show countsFrom n ((Numeral.ofNat n, v) :: indexedFrom (n + 1) (Assoc.values rest)) = true
      rw [countsFrom, hindex, ih h.2, beq_self_eq_true]
      rfl

theorem listed_indexedFrom {m : Members} (h : (!m.isEmpty && countsFrom 0 m) = true) :
    indexedFrom 0 m.values ≠ [] ∧ listed (indexedFrom 0 m.values) = .arr m.values := by
  rw [Bool.and_eq_true, Bool.not_eq_true'] at h
  have hne : indexedFrom 0 m.values ≠ [] := by
    intro hnil
    have hvalues := values_indexedFrom 0 m.values
    rw [hnil] at hvalues
    exact List.isEmpty_eq_false_iff.mp h.1 (List.map_eq_nil_iff.mp hvalues.symm)
  refine ⟨hne, ?_⟩
  rw [listed, if_pos, values_indexedFrom]
  rw [Bool.and_eq_true, Bool.not_eq_true', List.isEmpty_eq_false_iff]
  exact ⟨hne, countsFrom_indexedFrom h.2⟩

theorem Grown.comesBack {v : Json} (h : Grown v) : ComesBack (withLists v) := by
  induction h with
  | text t =>
      refine ⟨.str t, ?_, rfl⟩
      show regrow? (.str t) = some (.str t)
      rw [regrow?_scalar rfl, scalarText?, Option.map_some]
  | @branch m hne _ _ _ ih =>
      have hmembers : ∀ e ∈ withListsMembers m, ComesBack e.2 := by
        intro e he
        obtain ⟨x, hx, rfl⟩ := mem_withListsMembers he
        exact ih x hx
      have hne' : withListsMembers m ≠ [] := by
        rw [withListsMembers_eq]
        exact fun hnil => hne (List.map_eq_nil_iff.mp hnil)
      rw [withLists, listed]
      split
      · next hcounts =>
          obtain ⟨hne'', hlisted⟩ := listed_indexedFrom hcounts
          refine comesBack_of_members (by rw [regrow?, regrowItems_eq]) hne'' ?_ hlisted
          intro e he
          obtain ⟨x, hx, hvalue⟩ := List.mem_map.mp (mem_indexedFrom he).2
          exact hvalue ▸ hmembers x hx
      · next hcounts =>
          exact comesBack_of_members (by rw [regrow?]) hne' hmembers (if_neg hcounts)

/-- What comes out of a form names each parameter once. -/
theorem nodup_keys_parse (limit : Nat) (t : Text) : (Assoc.keys (parse limit t)).Nodup := by
  have hlevel : Level IsBase Grown (collect ((readPairs t).take limit)) := collect_level _
  rw [parse, keys_withListsMembers]
  exact hlevel.distinct

/-- **A form that is written and read again stays the same**, order of members included, whatever
was in its text. -/
theorem parse_render_parse (limit : Nat) (t : Text) :
    parse limit (render (parse limit t)) = parse limit t := by
  have hgrown : Level IsBase Grown (collect ((readPairs t).take limit)) := collect_level _
  have hlevel : Level IsBase Spelled (parse limit t) :=
    level_withListsMembers hgrown fun e he => (hgrown.values e he).spelled_withLists
  have hlimit : (leavesMembers (parse limit t)).length ≤ limit := by
    rw [parse, length_leavesMembers_withLists]
    exact Nat.le_trans (length_leaves_collect _) (List.length_take_le limit _)
  rw [parse_render hlevel hlimit]
  refine withLists_regrowMembers fun e he => ?_
  obtain ⟨x, hx, rfl⟩ := mem_withListsMembers he
  exact (hgrown.values x hx).comesBack

end HttpExchange.Form
