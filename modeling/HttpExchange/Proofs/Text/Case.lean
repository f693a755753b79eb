import HttpExchange.Proofs.Text.Blank

/-!
# Text in lower case

Lower case moves the letters `A` to `Z` by 32 and leaves every other character
alone. So it changes neither the blanks of a text nor any character that is no
letter, and a text in lower case stays as it is.

## Main results

* `toNat_toLower` — where lower case moves a character.
* `lower_lower`, `trim_lower`, `mem_lower_iff` — what lower case leaves alone.
-/

namespace HttpExchange.Text

theorem isUpper_iff {c : Char} : c.isUpper = true ↔ 65 ≤ c.toNat ∧ c.toNat ≤ 90 :=
  decide_eq_true_iff

theorem toNat_toLower (c : Char) :
    c.toLower.toNat = if c.isUpper then c.toNat + 32 else c.toNat := by
  unfold Char.toLower
  split
  · next h =>
      have hmax : c.val.toNat ≤ 90 := h.2
      rw [if_pos (isUpper_iff.mpr h)]
      show (c.val + 32).toNat = c.val.toNat + 32
      rw [UInt32.toNat_add]
      show (c.val.toNat + 32) % 2 ^ 32 = c.val.toNat + 32
      omega
  · next h => rw [if_neg (mt isUpper_iff.mp h)]

theorem toLower_of_not_isUpper {c : Char} (h : ¬ c.isUpper = true) : c.toLower = c := by
  apply Char.toNat_inj.mp
  rw [toNat_toLower, if_neg h]

/-- A letter in lower case. -/
theorem toNat_toLower_of_isUpper {c : Char} (h : c.isUpper = true) :
    97 ≤ c.toLower.toNat ∧ c.toLower.toNat ≤ 122 := by
  have hmoved := toNat_toLower c
  rw [if_pos h] at hmoved
  rw [isUpper_iff] at h
  omega

theorem toLower_toLower (c : Char) : c.toLower.toLower = c.toLower := by
  by_cases h : c.isUpper = true
  · have hmoved := toNat_toLower_of_isUpper h
    refine toLower_of_not_isUpper fun hagain => ?_
    rw [isUpper_iff] at hagain
    omega
  · rw [toLower_of_not_isUpper h, toLower_of_not_isUpper h]

theorem lower_lower (t : Text) : lower (lower t) = lower t := by
  rw [lower, lower, List.map_map]
  exact List.map_congr_left fun c _ => toLower_toLower c

theorem isBlank_toLower (c : Char) : isBlank c.toLower = isBlank c := by
  by_cases h : c.isUpper = true
  · have hmoved := toNat_toLower_of_isUpper h
    rw [isUpper_iff] at h
    rw [isBlank_of_printable (c := c) (by omega) (by omega),
      isBlank_of_printable (c := c.toLower) (by omega) (by omega)]
  · rw [toLower_of_not_isUpper h]

/-- A character that is no letter is where it was. -/
theorem mem_lower_iff {c : Char} (h : c.isAlpha = false) {t : Text} : c ∈ lower t ↔ c ∈ t := by
  have hneither : (c.isUpper || c.isLower) = false := h
  obtain ⟨hupper, hlower⟩ := Bool.or_eq_false_iff.mp hneither
  rw [lower, List.mem_map]
  constructor
  · rintro ⟨d, hd, rfl⟩
    by_cases hd' : d.isUpper = true
    · obtain ⟨hmin, hmax⟩ := toNat_toLower_of_isUpper hd'
      have hletter : d.toLower.isLower = true :=
        (Bool.and_eq_true _ _).mpr ⟨decide_eq_true hmin, decide_eq_true hmax⟩
      rw [hletter] at hlower
      cases hlower
    · rwa [toLower_of_not_isUpper hd']
  · intro hc
    exact ⟨c, hc, toLower_of_not_isUpper (by rw [hupper]; exact Bool.false_ne_true)⟩

theorem trim_lower (t : Text) : trim (lower t) = lower (trim t) := by
  have hreverse : ∀ s : Text, (lower s).reverse = lower s.reverse := fun s =>
    List.map_reverse.symm
  have hdrop : ∀ s : Text, (lower s).dropWhile isBlank = lower (s.dropWhile isBlank) := by
    intro s
    have hblank : isBlank ∘ Char.toLower = isBlank := funext isBlank_toLower
    rw [lower, lower, List.dropWhile_map, hblank]
  unfold trim trimEnd dropEndWhile trimStart
  rw [hdrop, hreverse, hdrop, hreverse]

end HttpExchange.Text
