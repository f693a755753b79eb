import HttpExchange.Message.Basic
import HttpExchange.Proofs.Assoc
import HttpExchange.Proofs.Form.Regrowth
import HttpExchange.Proofs.Numeral.Integer

/-!
# Parameters merged into a body

Merging numbers the members whose names are indices anew and then writes all of
them one after the other. A 64-bit counter never reaches a name that does not
read as an index, so the numbers that it gives are names of their own, and every
parameter that is merged is found in the body afterwards.

## Main results

* `Json.renumber_eq` — merging as renaming followed by writing.
* `Json.positioned_renumber` — the values under indices, counted from zero.
* `Json.named_renumber`, `Json.get?_renumber` — the names, which the indices leave alone.
* `Message.holds_extendWith` — a body holds every parameter that was merged into it.
-/

namespace HttpExchange

namespace Json

/-- The members with their indices numbered anew from `n` on. -/
def numbered (n : Nat) : Members → Members
  | [] => []
  | (k, v) :: rest =>
    if (Numeral.readNat64? k).isSome then (Numeral.ofNat n, v) :: numbered (n + 1) rest
    else (k, v) :: numbered n rest

/-- **Merging is renaming followed by writing.** -/
theorem renumber_eq (entries : Members) : renumber entries = Assoc.ofList (numbered 0 entries) := by
  have hfold : ∀ (entries m : Members) (n : Nat),
      (entries.foldl (fun s e =>
        if (Numeral.readNat64? e.1).isSome then (Assoc.set (Numeral.ofNat s.2) e.2 s.1, s.2 + 1)
        else (Assoc.set e.1 e.2 s.1, s.2)) ((m, n) : Members × Nat)).1 =
      Assoc.setAll m (numbered n entries) := by
    intro entries
    induction entries with
    | nil => exact fun m n => rfl
    | cons e rest ih =>
        intro m n
        obtain ⟨k, v⟩ := e
        by_cases hindex : (Numeral.readNat64? k).isSome
        · simp only [List.foldl_cons, numbered, if_pos hindex, ih]
          rfl
        · simp only [List.foldl_cons, numbered, if_neg hindex, ih]
          rfl
  exact hfold entries [] 0

/-! ## Names and indices -/

/-- Whether a name reads as an index. -/
def isIndex (name : Text) : Bool := (Numeral.readNat64? name).isSome

/-- The members whose names are indices. -/
def positioned (m : Members) : Members := m.filter fun e => isIndex e.1

/-- The members whose names are no indices. -/
def named (m : Members) : Members := m.filter fun e => !isIndex e.1

theorem isIndex_ofNat {n : Nat} (h : n ≤ Numeral.maxNat64) :
    isIndex (Numeral.ofNat n) = true := by
  have hread : Numeral.readNat64? (Numeral.ofNat n) = some n := Numeral.readNat?_ofNat h
  rw [isIndex, hread]
  rfl

theorem length_positioned_cons {k : Text} (hk : isIndex k = true) (v : Json) (m : Members) :
    (positioned ((k, v) :: m)).length = (positioned m).length + 1 := by
  rw [positioned, List.filter_cons_of_pos (by exact hk), List.length_cons, positioned]

theorem length_positioned_le (m : Members) : (positioned m).length ≤ m.length :=
  List.length_filter_le _ m

section Numbered

variable {n : Nat} {m : Members} (hbound : n + (positioned m).length ≤ Numeral.maxNat64 + 1)

include hbound

/-- The numbers that are given are indices, so no name comes from them. -/
theorem named_numbered : named (numbered n m) = named m := by
  induction m generalizing n with
  | nil => rfl
  | cons e rest ih =>
      obtain ⟨k, v⟩ := e
      by_cases hk : isIndex k = true
      · rw [length_positioned_cons hk] at hbound
        have hn : isIndex (Numeral.ofNat n) = true := isIndex_ofNat (by omega)
        have hrest := ih (n := n + 1) (by omega)
        rw [numbered, if_pos (by exact hk), named, List.filter_cons_of_neg (by simp [hn]),
          ← named, hrest, named, named, List.filter_cons_of_neg (by simp [hk])]
      · have hlength : (positioned ((k, v) :: rest)).length = (positioned rest).length := by
          rw [positioned, List.filter_cons_of_neg (by exact hk), positioned]
        have hrest := ih (n := n) (by omega)
        rw [numbered, if_neg (by exact hk), named, List.filter_cons_of_pos (by simpa using hk),
          ← named, hrest, named, named, List.filter_cons_of_pos (by simpa using hk)]

/-- The values under indices keep their order and are counted. -/
theorem positioned_numbered :
    positioned (numbered n m) = Form.indexedFrom n (Assoc.values (positioned m)) := by
  induction m generalizing n with
  | nil => rfl
  | cons e rest ih =>
      obtain ⟨k, v⟩ := e
      by_cases hk : isIndex k = true
      · rw [length_positioned_cons hk] at hbound
        have hn : isIndex (Numeral.ofNat n) = true := isIndex_ofNat (by omega)
        have hrest := ih (n := n + 1) (by omega)
        rw [numbered, if_pos (by exact hk), positioned, List.filter_cons_of_pos (by exact hn),
          ← positioned, hrest, positioned, positioned, List.filter_cons_of_pos (by exact hk)]
        exact (Form.indexedFrom_cons n v _).symm
      · have hlength : (positioned ((k, v) :: rest)).length = (positioned rest).length := by
          rw [positioned, List.filter_cons_of_neg (by exact hk), positioned]
        have hrest := ih (n := n) (by omega)
        rw [numbered, if_neg (by exact hk), positioned, List.filter_cons_of_neg (by exact hk),
          ← positioned, hrest, positioned, positioned, List.filter_cons_of_neg (by exact hk)]

end Numbered

section Renumber

variable {entries : Members} (hbound : (positioned entries).length ≤ Numeral.maxNat64 + 1)

include hbound

/-- **The values under indices are all there**, and they are counted from zero. -/
theorem positioned_renumber :
    positioned (renumber entries) = indexed (Assoc.values (positioned entries)) := by
  have hnumbered := positioned_numbered (n := 0) (m := entries) (by omega)
  rw [renumber_eq, positioned, Assoc.filter_ofList, ← positioned, hnumbered]
  exact Assoc.ofList_of_nodup (Form.nodup_keys_indexedFrom 0 _)

/-- Indices do not matter to names. -/
theorem named_renumber : named (renumber entries) = Assoc.ofList (named entries) := by
  have hnumbered := named_numbered (n := 0) (m := entries) (by omega)
  rw [renumber_eq, named, Assoc.filter_ofList (fun name => !isIndex name), ← named, hnumbered]

/-- A name has the value that it has without the indices. -/
theorem get?_renumber {k : Text} (hk : isIndex k = false) :
    Assoc.get? k (renumber entries) = Assoc.get? k (Assoc.ofList entries) := by
  have hfilter : ∀ m : Members, Assoc.get? k (named m) = Assoc.get? k m := by
    intro m
    rw [named, Assoc.get?_filter (fun name => !isIndex name), if_pos (by rw [hk]; rfl)]
  rw [← hfilter (renumber entries), named_renumber hbound, named,
    ← Assoc.filter_ofList fun name => !isIndex name, ← named, hfilter]

/-- A value under an index is found under some index. -/
theorem exists_get?_renumber {k : Text} {v : Json} (h : (k, v) ∈ entries)
    (hk : isIndex k = true) :
    ∃ name, isIndex name = true ∧ Assoc.get? name (renumber entries) = some v := by
  have hvalue : v ∈ Assoc.values (positioned entries) :=
    List.mem_map.mpr ⟨(k, v), List.mem_filter.mpr ⟨h, hk⟩, rfl⟩
  rw [← Form.values_indexedFrom 0 (Assoc.values (positioned entries))] at hvalue
  obtain ⟨⟨name, value⟩, hmem, rfl⟩ := List.mem_map.mp hvalue
  have hplace : (name, value) ∈ positioned (renumber entries) := by
    rw [positioned_renumber hbound]
    exact hmem
  obtain ⟨hmem, hindex⟩ := List.mem_filter.mp hplace
  have hdistinct : (Assoc.keys (renumber entries)).Nodup := by
    rw [renumber_eq]
    exact Assoc.nodup_keys_ofList _
  exact ⟨name, hindex, Assoc.get?_of_mem hdistinct hmem⟩

end Renumber

/-- Unless both are arrays, two collections become an object. -/
theorem merge_of_object {base extra : Json}
    (h : base.asObject?.isSome = true ∨ extra.asObject?.isSome = true) :
    base.merge extra = .obj (renumber (base.toMembers ++ extra.toMembers)) := by
  cases base <;> cases extra <;> first | rfl | simp [asObject?] at h

end Json

namespace Body

/-- The number of members of a body. -/
def size : Body → Nat
  | .structured v => v.toMembers.length
  | .raw _ => 0

/-- Whether a body holds a parameter: under its name, or, when that is an index, under some
index. -/
def HoldsParam (b : Body) (k : Text) (v : Json) : Prop :=
  ∃ members, b = .structured (.obj members) ∧ ∃ name, Assoc.get? name members = some v ∧
    (name = k ∨ (Numeral.readNat64? k).isSome ∧ (Numeral.readNat64? name).isSome)

end Body

namespace Message

theorem extendWith_of_collection {base : Json} (h : base.isNonEmptyCollection = true)
    (extra : Json) : extendWith extra (.structured base) = .structured (base.merge extra) := by
  rw [extendWith, if_pos h]

/-- **A body holds every parameter that was merged into it.** -/
theorem holds_extendWith {params : Members} (hdistinct : (Assoc.keys params).Nodup) {b : Body}
    (hbound : b.size + params.length ≤ Numeral.maxNat64 + 1) {k : Text} {v : Json}
    (h : (k, v) ∈ params) : (extendWith (.obj params) b).HoldsParam k v := by
  have hreplaced : (Body.structured (.obj params)).HoldsParam k v :=
    ⟨params, rfl, k, Assoc.get?_of_mem hdistinct h, .inl rfl⟩
  cases b with
  | raw t => exact hreplaced
  | structured w =>
      by_cases hcollection : w.isNonEmptyCollection = true
      · have hmerge : extendWith (.obj params) (.structured w) =
            .structured (.obj (Json.renumber (w.toMembers ++ params))) := by
          rw [extendWith_of_collection hcollection, Json.merge_of_object (.inr rfl)]
          rfl
        have hcount : (Json.positioned (w.toMembers ++ params)).length ≤ Numeral.maxNat64 + 1 := by
          have hlength := Json.length_positioned_le (w.toMembers ++ params)
          have hsize : (Body.structured w).size = w.toMembers.length := rfl
          rw [List.length_append] at hlength
          omega
        refine ⟨_, hmerge, ?_⟩
        cases hk : Json.isIndex k with
        | true =>
            obtain ⟨name, hname, hget⟩ :=
              Json.exists_get?_renumber hcount (List.mem_append_right _ h) hk
            exact ⟨name, hget, .inr ⟨hk, hname⟩⟩
        | false =>
            refine ⟨k, ?_, .inl rfl⟩
            rw [Json.get?_renumber hcount hk, Assoc.ofList, Assoc.setAll_append]
            exact Assoc.get?_setAll_of_mem hdistinct h
      · have hreplace : extendWith (.obj params) (.structured w) = .structured (.obj params) := by
          rw [extendWith, if_neg hcollection]
        rw [hreplace]
        exact hreplaced

end Message

end HttpExchange
