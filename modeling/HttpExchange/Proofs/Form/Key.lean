import HttpExchange.Form.Nesting
import HttpExchange.Proofs.Text.Blank
import HttpExchange.Proofs.Text.Split

/-!
# Names and the places they stand for

A name is taken apart into a base, in which nothing is left that a base must not
have, and segments without closing brackets. Put together again, these give a
name that is taken apart into the same base and the same segments.

## Main results

* `Key.isBase_of_read?`, `Key.not_mem_of_read?` — what the parts of a name look like.
* `Key.read?_nameOf` — a name that was put together is taken apart again.
-/

namespace HttpExchange.Form

/-- What the base of a name looks like. -/
structure IsBase (base : Text) : Prop where
  nonempty : base ≠ []
  unblank : ∀ c ∈ base.head?, Text.isBlank c = false
  plain : ∀ c ∈ base, Key.baseChar c = c

/-- The name of a member below a base. -/
def nameOf (base : Text) (path : List Text) : Text := path.foldl below base

/-- The brackets of some segments. -/
def brackets (path : List Text) : Text := path.flatMap fun s => '[' :: s ++ [']']

theorem nameOf_eq (base : Text) (path : List Text) : nameOf base path = base ++ brackets path := by
  unfold nameOf
  induction path generalizing base with
  | nil => exact (List.append_nil base).symm
  | cons s path ih =>
      rw [List.foldl_cons, ih, brackets, brackets, List.flatMap_cons, ← List.append_assoc, below,
        List.append_assoc base]

theorem baseChar_of_plain {c : Char} (hc : Key.baseChar c = c) : c ≠ '[' := by
  rintro rfl
  revert hc
  decide

theorem IsBase.not_bracket {base : Text} (h : IsBase base) : ∀ c ∈ base, (c != '[') = true :=
  fun c hc => bne_iff_ne.mpr (baseChar_of_plain (h.plain c hc))

namespace Key

/-! ## Segments -/

theorem segments_brackets {path : List Text} (h : ∀ s ∈ path, ']' ∉ s) :
    segments (brackets path) = path := by
  induction path with
  | nil =>
      rw [brackets, List.flatMap_nil, segments]
      simp
  | cons s path ih =>
      have hs : ']' ∉ s := h s List.mem_cons_self
      have htext : brackets (s :: path) = '[' :: (s ++ ']' :: brackets path) := by
        rw [brackets, List.flatMap_cons]
        show '[' :: (s ++ [']'] ++ brackets path) = _
        rw [List.append_assoc, List.singleton_append]
      have hsplit := Text.splitFirst_append hs (brackets path)
      rw [htext, segments]
      split
      · next inside rest heq =>
          obtain ⟨rfl, rfl⟩ := Prod.mk.inj (Option.some.inj (heq.symm.trans hsplit))
          rw [ih fun t ht => h t (List.mem_cons_of_mem _ ht)]
      · next heq =>
          rw [hsplit] at heq
          cases heq

theorem not_mem_of_segments (t : Text) : ∀ s ∈ segments t, ']' ∉ s := by
  fun_induction segments t with
  | case1 rest inside rest' h ih =>
      intro s hs
      rcases List.mem_cons.mp hs with rfl | hs
      · exact Text.not_mem_of_splitFirst h
      · exact ih s hs
  | case2 rest h => exact fun s hs => absurd hs List.not_mem_nil
  | case3 t h => exact fun s hs => absurd hs List.not_mem_nil

/-! ## Names -/

theorem isBase_map {t : Text} (hne : t ≠ []) (hhead : ∀ c ∈ t.head?, Text.isBlank c = false) :
    IsBase (t.map baseChar) where
  nonempty := fun h => hne (List.map_eq_nil_iff.mp h)
  unblank := by
    intro c hc
    rw [List.head?_map] at hc
    obtain ⟨d, hd, rfl⟩ := Option.map_eq_some_iff.mp hc
    unfold baseChar
    split
    · decide
    · exact hhead d hd
  plain := by
    intro c hc
    obtain ⟨d, -, rfl⟩ := List.mem_map.mp hc
    unfold baseChar
    split <;> simp_all

theorem not_mem_of_read? {name : Text} {key : Key} (h : read? name = some key) :
    ∀ s ∈ key.path, ']' ∉ s := by
  unfold read? at h
  simp only at h
  split at h
  · cases h
  · split at h
    · obtain rfl := Option.some.inj h
      exact not_mem_of_segments _
    · obtain rfl := Option.some.inj h
      exact fun s hs => absurd hs List.not_mem_nil

theorem isBase_of_read? {name : Text} {key : Key} (h : read? name = some key) :
    IsBase key.base := by
  unfold read? at h
  simp only at h
  split at h
  · cases h
  · next hbefore =>
      have hhead : ∀ c ∈ (Text.trimStart name).head?, Text.isBlank c = false :=
        fun c hc => Text.isBlank_head_trimStart hc
      split at h
      · obtain rfl := Option.some.inj h
        refine isBase_map (fun hnil => hbefore (by rw [hnil]; rfl)) fun c hc => hhead c ?_
        cases htext : Text.trimStart name with
        | nil =>
            rw [htext] at hc
            cases hc
        | cons d rest =>
            rw [htext, List.takeWhile_cons] at hc
            split at hc
            · exact hc
            · cases hc
      · obtain rfl := Option.some.inj h
        refine isBase_map (fun hnil => hbefore ?_) hhead
        rw [hnil]
        rfl

/-- **A name that was put together is taken apart again.** -/
theorem read?_nameOf {base : Text} (hbase : IsBase base) {path : List Text}
    (hpath : ∀ s ∈ path, ']' ∉ s) : read? (nameOf base path) = some ⟨base, path⟩ := by
  have htrim : Text.trimStart (base ++ brackets path) = base ++ brackets path := by
    obtain ⟨d, rest, rfl⟩ := List.exists_cons_of_ne_nil hbase.nonempty
    exact Text.trimStart_eq_self hbase.unblank
  have htake : (base ++ brackets path).takeWhile (· != '[') = base := by
    rw [List.takeWhile_append_of_pos hbase.not_bracket]
    cases path with
    | nil => exact List.append_nil base
    | cons s path => exact List.append_nil base
  have hdrop : (base ++ brackets path).dropWhile (· != '[') = brackets path := by
    rw [List.dropWhile_append_of_pos hbase.not_bracket]
    cases path with
    | nil => rfl
    | cons s path => rfl
  have hempty : base.isEmpty = false := List.isEmpty_eq_false_iff.mpr hbase.nonempty
  have hplain : base.map baseChar = base :=
    (List.map_congr_left (g := id) hbase.plain).trans (List.map_id base)
  unfold read?
  simp only [nameOf_eq, htrim, htake, hdrop, hempty, Bool.false_eq_true, if_false]
  cases path with
  | nil =>
      rw [if_neg (by decide), show brackets [] = [] from rfl, List.append_nil, hplain]
  | cons s path =>
      have hclosed : (brackets (s :: path)).contains ']' = true := by
        rw [List.contains_iff_mem, brackets, List.flatMap_cons]
        simp
      rw [if_pos hclosed, hplain, segments_brackets hpath]

end Key

end HttpExchange.Form
