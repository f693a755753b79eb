import HttpExchange.Proofs.Numeral.Integer
import HttpExchange.Proofs.Text.Blank
import HttpExchange.Status

/-!
# Statuses stand for themselves

A text that is a code alone stands for the status line of the code, with its reason
phrase if it has one, and any other text stands for itself without the blanks around
it. This is done once and for all. A status with a phrase is no code alone, because
there is a space in it, and a code without a phrase is written as it would be again.

## Main definitions

* `IsPhrase` — the texts that can stand behind a code.
* `ofText` — the status that a text stands for.

## Main results

* `isPhrase_of_reason?` — the reason phrases of the registered codes are such texts.
* `ofText_line`, `ofText_ofText` — a status stands for itself.
-/

namespace HttpExchange.Status

/-- A text that can stand behind a code: it is not empty, it has no blanks around it, and it does
not end a line. -/
def IsPhrase (t : Text) : Prop := t ≠ [] ∧ Text.trim t = t ∧ '\n' ∉ t

instance (t : Text) : Decidable (IsPhrase t) := inferInstanceAs (Decidable (_ ∧ _))

theorem isPhrase_of_reason? {code : UInt16} {phrase : Text} (h : reason? code = some phrase) :
    IsPhrase phrase := by
  have hphrases : ∀ entry ∈ registered, IsPhrase entry.2.toList := by decide +kernel
  obtain ⟨entry, hentry, rfl⟩ := Option.map_eq_some_iff.mp h
  exact hphrases entry (List.mem_of_find?_eq_some hentry)

/-! ## The line of a code -/

/-- A status does not end a line. -/
theorem lineFeed_not_mem_line (code : UInt16) : '\n' ∉ line code := by
  have hcode : '\n' ∉ Numeral.ofNat code.toNat := Numeral.not_mem_ofNat (by decide) _
  unfold line
  cases hreason : reason? code with
  | none => exact hcode
  | some phrase =>
      obtain ⟨-, -, hphrase⟩ := isPhrase_of_reason? hreason
      rw [List.mem_append, List.mem_cons]
      rintro (hmem | heq | hmem)
      · exact hcode hmem
      · cases heq
      · exact hphrase hmem

/-- There are no blanks around the line of a code. -/
theorem trim_line (code : UInt16) : Text.trim (line code) = line code := by
  have hcode : Text.trim (Numeral.ofNat code.toNat) = Numeral.ofNat code.toNat :=
    Text.trim_of_unblank fun c hc =>
      Text.isBlank_of_isDigit (Numeral.isDigit_of_mem_ofNat hc)
  unfold line
  cases hreason : reason? code with
  | none => exact hcode
  | some phrase =>
      obtain ⟨hne, hphrase, -⟩ := isPhrase_of_reason? hreason
      exact Text.trim_append_cons_eq_self hcode hphrase (Numeral.ofNat_ne_nil _) hne ' '

/-- The line of a code reads as a code only if there is no phrase in it, and then as that code. -/
theorem eq_of_readUInt16?_line {code read : UInt16}
    (h : Numeral.readUInt16? (line code) = some read) : read = code := by
  unfold line at h
  cases hreason : reason? code with
  | none =>
      rw [hreason] at h
      exact Option.some.inj (h.symm.trans (Numeral.readUInt16?_ofNat code))
  | some phrase =>
      rw [hreason] at h
      obtain ⟨n, hread, -⟩ := Option.map_eq_some_iff.mp h
      have hspace : ' ' ∈ Numeral.ofNat code.toNat ++ ' ' :: phrase :=
        List.mem_append_right _ List.mem_cons_self
      rcases Numeral.isDigit_of_readNat? hread hspace with hplus | hdigit
      · cases hplus
      · cases hdigit

/-! ## The status of a text -/

/-- The status that a text stands for: a code alone is written out. -/
def ofText (t : Text) : Text :=
  match Numeral.readUInt16? (Text.trim t) with
  | some code => line code
  | none => Text.trim t

/-- **What was written out stands for itself.** -/
theorem ofText_line (code : UInt16) : ofText (line code) = line code := by
  unfold ofText
  rw [trim_line]
  split
  · next read hread => rw [eq_of_readUInt16?_line hread]
  · rfl

/-- **The status of any text stands for itself.** -/
theorem ofText_ofText (t : Text) : ofText (ofText t) = ofText t := by
  cases hread : Numeral.readUInt16? (Text.trim t) with
  | some code =>
      have hline : ofText t = line code := by rw [ofText, hread]
      rw [hline, ofText_line]
  | none =>
      have hkept : ofText t = Text.trim t := by rw [ofText, hread]
      rw [hkept, ofText, Text.trim_trim, hread]

/-- There are no blanks around a status. -/
theorem trim_ofText (t : Text) : Text.trim (ofText t) = ofText t := by
  unfold ofText
  split
  · exact trim_line _
  · exact Text.trim_trim t

end HttpExchange.Status
