import HttpExchange.Proofs.Text.Split
import HttpExchange.Xml.Name

/-!
# Names of XML that are read

A name that is read is a local name, with another local name for its qualifier if
it has one. Either begins with a letter or the like, so it is no numeral and
begins no other markup. A name that is written is read again where something
follows that continues no name.

## Main results

* `isSound_of_readQName?` — what a name that was read is like.
* `readQName?_append` — a name is read where it was written.
-/

namespace HttpExchange.Xml

/-- A name without a qualifier. -/
structure IsLocalName (name : Text) : Prop where
  nonempty : name ≠ []
  begins : beginsName name = true
  chars : ∀ c ∈ name, isNameChar c = true
  colon : ':' ∉ name

theorem isLocalName_iff {name : Text} : IsLocalName name ↔
    name ≠ [] ∧ beginsName name = true ∧ (∀ c ∈ name, isNameChar c = true) ∧ ':' ∉ name :=
  ⟨fun h => ⟨h.1, h.2, h.3, h.4⟩, fun h => ⟨h.1, h.2.1, h.2.2.1, h.2.2.2⟩⟩

instance (name : Text) : Decidable (IsLocalName name) := decidable_of_iff _ isLocalName_iff.symm

theorem IsLocalName.exists_cons {name : Text} (h : IsLocalName name) :
    ∃ c rest, name = c :: rest ∧ isNameStart c = true := by
  obtain ⟨c, rest, rfl⟩ := List.exists_cons_of_ne_nil h.nonempty
  exact ⟨c, rest, rfl, h.begins⟩

theorem isLocalName_xml : IsLocalName "xml".toList := by decide

/-! ## Characters of names -/

/-- No blank is in a name. -/
theorem isSpace_of_isNameChar {c : Char} (h : isNameChar c = true) : isSpace c = false := by
  refine Bool.eq_false_iff.mpr fun hspace => ?_
  simp only [isSpace, Bool.or_eq_true, beq_iff_eq] at hspace
  rcases hspace with ((rfl | rfl) | rfl) | rfl <;> revert h <;> decide

/-- What begins a name is none of the characters that are known to begin none. -/
theorem ne_of_isNameStart {c d : Char} (hc : isNameStart c = true) (hd : isNameStart d = false) :
    c ≠ d := by
  rintro rfl
  rw [hc] at hd
  cases hd

/-- What begins a name comes behind the digits. -/
theorem not_isDigit_of_isNameStart {c : Char} (h : isNameStart c = true) : c.isDigit = false := by
  have hmin : 58 ≤ c.toNat := by
    simp only [isNameStart, Bool.or_eq_true, beq_iff_eq] at h
    rcases h with ((halpha | rfl) | rfl) | hrange
    · rcases (Bool.or_eq_true _ _).mp halpha with hupper | hlower
      · obtain ⟨hmin, -⟩ : 65 ≤ c.toNat ∧ c.toNat ≤ 90 := of_decide_eq_true hupper
        omega
      · have hmin : 97 ≤ c.toNat := of_decide_eq_true ((Bool.and_eq_true _ _).mp hlower).1
        omega
    · decide
    · decide
    · have hranges : ∀ r ∈ nameStartRanges, 0xC0 ≤ r.1 := by decide
      obtain ⟨r, hr, hc⟩ := List.any_eq_true.mp hrange
      have hfirst := of_decide_eq_true ((Bool.and_eq_true _ _).mp hc).1
      have := hranges r hr
      omega
  refine Bool.eq_false_iff.mpr fun hdigit => ?_
  have hmax : c.toNat ≤ 57 := of_decide_eq_true ((Bool.and_eq_true _ _).mp hdigit).2
  omega

/-! ## Names that are read -/

/-- A local name, and another one before a colon unless there is none. -/
structure QName.IsSound (q : QName) : Prop where
  name : IsLocalName q.name
  qualifier : q.qualifier = [] ∨ IsLocalName q.qualifier

theorem QName.isSound_of_ofText? {t : Text} {q : QName}
    (hchars : ∀ c ∈ t, isNameChar c = true) (h : QName.ofText? t = some q) : q.IsSound := by
  simp only [QName.ofText?, Option.ite_none_right_eq_some, Option.some.injEq, Bool.and_eq_true,
    Bool.not_eq_true', List.isEmpty_eq_false_iff] at h
  obtain ⟨⟨⟨⟨hne, hcolon⟩, hqualifier⟩, hname⟩, rfl⟩ := h
  have hcolon' : ∀ name : Text, name.contains ':' = false → ':' ∉ name := fun name h => by
    simpa using h
  cases hsplit : Text.splitFirst ':' t with
  | none =>
      simp only [hsplit] at hne hcolon hname ⊢
      exact ⟨⟨hne, hname, hchars, hcolon' t hcolon⟩, .inl rfl⟩
  | some parts =>
      obtain ⟨qualifier, name⟩ := parts
      simp only [hsplit] at hne hcolon hqualifier hname ⊢
      rw [Text.eq_of_splitFirst hsplit] at hchars
      refine ⟨⟨hne, hname, fun c hc => hchars c (by simp [hc]), hcolon' name hcolon⟩, ?_⟩
      by_cases hempty : qualifier = []
      · exact .inl hempty
      · exact .inr ⟨hempty, hqualifier, fun c hc => hchars c (List.mem_append_left _ hc),
          Text.not_mem_of_splitFirst hsplit⟩

/-- A text is its name, behind a colon and its qualifier if there is a colon. -/
theorem QName.eq_of_ofText? {t : Text} {q : QName} (h : QName.ofText? t = some q) :
    t = q.name ∧ q.qualifier = [] ∨ t = q.qualifier ++ ':' :: q.name := by
  rw [QName.ofText?] at h
  obtain ⟨-, heq⟩ := Option.ite_none_right_eq_some.mp h
  obtain rfl := Option.some.inj heq
  cases hsplit : Text.splitFirst ':' t with
  | none => exact .inl ⟨rfl, rfl⟩
  | some parts => exact .inr (Text.eq_of_splitFirst hsplit)

theorem isSound_of_readQName? {t : Text} {q : QName} {rest : Text}
    (h : readQName? t = some (q, rest)) : q.IsSound := by
  obtain ⟨q', hq, hpair⟩ := Option.map_eq_some_iff.mp h
  obtain ⟨rfl, -⟩ := Prod.mk.inj hpair
  exact QName.isSound_of_ofText? (fun c hc => List.all_eq_true.mp List.all_takeWhile c hc) hq

/-! ## Names that are written -/

theorem QName.ofText?_of_isLocalName {name : Text} (h : IsLocalName name) :
    QName.ofText? name = some ⟨[], name⟩ := by
  have hempty : name.isEmpty = false := List.isEmpty_eq_false_iff.mpr h.nonempty
  have hcolon : name.contains ':' = false := by simpa using h.colon
  have hnone : beginsName [] = true := rfl
  simp only [QName.ofText?, Text.splitFirst_eq_none_iff.mpr h.colon, hempty, hcolon, h.begins,
    hnone, Bool.not_false, Bool.and_self, if_true]

theorem QName.ofText?_append {qualifier name : Text} (hqualifier : IsLocalName qualifier)
    (h : IsLocalName name) :
    QName.ofText? (qualifier ++ ':' :: name) = some ⟨qualifier, name⟩ := by
  have hempty : name.isEmpty = false := List.isEmpty_eq_false_iff.mpr h.nonempty
  have hcolon : name.contains ':' = false := by simpa using h.colon
  simp only [QName.ofText?, Text.splitFirst_append hqualifier.colon, hempty, hcolon, h.begins,
    hqualifier.begins, Bool.not_false, Bool.and_self, if_true]

/-- **A name is read where it was written**, if what follows does not continue it. -/
theorem readQName?_append {t : Text} {q : QName} (hchars : ∀ c ∈ t, isNameChar c = true)
    (h : QName.ofText? t = some q) {rest : Text} (hrest : ∀ c ∈ rest.head?, isNameChar c = false) :
    readQName? (t ++ rest) = some (q, rest) := by
  rw [readQName?, Text.takeWhile_append hchars hrest, Text.dropWhile_append hchars hrest, h]
  rfl

end HttpExchange.Xml
