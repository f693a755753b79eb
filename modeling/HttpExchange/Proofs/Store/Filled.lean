import HttpExchange.Proofs.Store.Language

/-!
# What the check of required fields gives

A write is refused when it would leave one of its objects outside of drafts and
without a value in a required field, both read in the language of the write. So
what a write leaves is filled in its own language, and what it makes readable in
another one was seen to by the same check.

## Main results

* `Filled.of_lang` — when one language speaks for all.
* `filled_change`, `filled_newborn` — what a write leaves in its own language.
* `Filled.change` — what an update leaves in another language.
-/

namespace HttpExchange

open Store

/-! ## What the check of a write gives -/

namespace Store

theorem not_isBlank_of_missing? {schema : Schema} {values : Members} {lang : Text}
    {o : StoredObject} (h : missing? schema values lang o = none)
    (hdraft : isDraft (resolved values lang o "state") = false) {field : Text}
    {f : FieldDescriptor} (hfield : schema.field? field = some f) (hrequired : f.required = true) :
    isBlank (resolved values lang o field) = false := by
  unfold missing? at h
  rw [hdraft, if_neg Bool.false_ne_true, Option.map_eq_none_iff] at h
  have hchecked : ¬ (f.required && isBlank (resolved values lang o field)) = true :=
    List.find?_eq_none.mp h (field, f) (Assoc.mem_of_get? hfield)
  rw [hrequired, Bool.true_and] at hchecked
  exact Bool.eq_false_iff.mpr hchecked

theorem nodup_keys_withState {values : Members} (h : (Assoc.keys values).Nodup) :
    (Assoc.keys (withState values)).Nodup := by
  unfold withState
  split
  · exact h
  · exact Assoc.nodup_keys_set h _ _

end Store

namespace StoredObject

/-- Outside of drafts the field has a value, both read in the language. -/
def Filled (lang field : Text) (o : StoredObject) : Prop :=
  isDraft (o.value "state" lang) = false → isBlank (o.value field lang) = false

theorem Holds.filled {field : Text} {n : Int} {o : StoredObject} (h : o.Holds field n)
    (lang : Text) : o.Filled lang field := by
  intro _
  rw [h.value_eq]
  rfl

/-- Neither the field nor the state depends on the language, so one language speaks for all. -/
theorem Filled.of_lang {schema : Schema} {defaultLang lang field : Text} {o : StoredObject}
    (hplaced : o.WellPlaced schema defaultLang) (hfield : schema.isMultilang field = false)
    (hstate : schema.isMultilang "state" = false) (h : o.Filled lang field) (read : Text) :
    o.Filled read field := by
  intro hdraft
  rw [hplaced.value_eq hstate read lang] at hdraft
  rw [hplaced.value_eq hfield read lang]
  exact h hdraft

/-- A copy is filled where its original is. -/
theorem Filled.born {lang field : Text} {o : StoredObject} {clock now : Int}
    (hstamped : o.Stamped clock) (h : o.Filled lang field) : (o.born now).Filled lang field := by
  obtain ⟨c, m, hc, hm, -, -, -⟩ := hstamped
  obtain ⟨hcreated, hmodified⟩ := born_holds hc.alone hm.alone now
  by_cases hfirst : field = "created".toList
  · exact hfirst ▸ hcreated.filled lang
  by_cases hsecond : field = "modified".toList
  · exact hsecond ▸ hmodified.filled lang
  intro hdraft
  rw [value_born (by decide) (by decide)] at hdraft
  rw [value_born hfirst hsecond]
  exact h hdraft

section Write

variable {schema : Schema} {defaultLang lang : Text} {values : Members}
  (hvalues : (Assoc.keys values).Nodup)
  {field : Text} {f : FieldDescriptor} (hfield : schema.field? field = some f)
  (hrequired : f.required = true)

include hvalues in
/-- In the language of an update, a target reads what was submitted, or else what it read. -/
theorem value_change_self {o : StoredObject} (hplaced : o.WellPlaced schema defaultLang)
    {other : Text} (hother : other ≠ "modified".toList) (now : Int) (n : Nat) :
    ((StoredObject.change schema defaultLang lang values now)^[n + 1] o).value other lang =
      resolved values lang o other := by
  rw [value_iterate_change schema defaultLang lang now hvalues hother hplaced,
    if_pos (Or.inl rfl)]
  rfl

include hvalues hfield hrequired in
/-- **The target of an update is filled in the language of the update.** -/
theorem filled_change {o : StoredObject} (hplaced : o.WellPlaced schema defaultLang)
    {now : Int} {n : Nat} (hmodified : ((StoredObject.change schema defaultLang lang values
      now)^[n + 1] o).Holds "modified" now)
    (hcheck : missing? schema values lang o = none) :
    ((StoredObject.change schema defaultLang lang values now)^[n + 1] o).Filled lang field := by
  by_cases hstamp : field = "modified".toList
  · exact hstamp ▸ hmodified.filled lang
  · intro hdraft
    rw [value_change_self hvalues hplaced (by decide)] at hdraft
    rw [value_change_self hvalues hplaced hstamp]
    exact not_isBlank_of_missing? hcheck hdraft hfield hrequired

include hvalues hfield hrequired in
/-- **An update in one language keeps an object filled in another** when it finds no draft there
and leaves none in its own: what it makes readable there was seen to by its check. -/
theorem Filled.change {read : Text} {o : StoredObject} (h : o.Filled read field)
    (hplaced : o.WellPlaced schema defaultLang) {now : Int} {n : Nat}
    (hmodified : ((StoredObject.change schema defaultLang lang values
      now)^[n + 1] o).Holds "modified" now)
    (hcheck : missing? schema values lang o = none)
    (hbefore : isDraft (o.value "state" read) = false)
    (hafter : isDraft (((StoredObject.change schema defaultLang lang values
      now)^[n + 1] o).value "state" lang) = false) :
    ((StoredObject.change schema defaultLang lang values now)^[n + 1] o).Filled read field := by
  by_cases hstamp : field = "modified".toList
  · exact hstamp ▸ hmodified.filled read
  intro _
  rw [value_change_self hvalues hplaced (by decide)] at hafter
  have hseen := not_isBlank_of_missing? hcheck hafter hfield hrequired
  rw [value_iterate_change schema defaultLang lang now hvalues hstamp hplaced]
  split
  · unfold resolved at hseen
    cases hsubmitted : Assoc.get? field values with
    | none => exact h hbefore
    | some v =>
        rw [hsubmitted] at hseen
        exact hseen
  · exact h hbefore

include hvalues in
/-- In the language it is made in, a new object reads what was submitted. -/
theorem value_newborn_self {other : Text} (hcreated : other ≠ "created".toList)
    (hmodified : other ≠ "modified".toList) (now : Int) :
    (StoredObject.newborn schema defaultLang lang values now).value other lang =
      resolved values lang .empty other := by
  have hcommon : Assoc.get? other (StoredObject.empty.born now).values = none :=
    (Assoc.get?_set_of_ne hmodified _ _).trans (Assoc.get?_set_of_ne hcreated _ _)
  have hlocal : (StoredObject.empty.born now).localValue? other lang = none := rfl
  unfold newborn resolved
  rw [value_eq, localValue?_writeAll schema defaultLang lang hvalues,
    get?_values_writeAll schema defaultLang hvalues, hcommon, hlocal]
  by_cases hapart : schema.keepsApart defaultLang lang other = true
  · rw [if_pos ⟨hapart, rfl⟩, if_pos hapart]
    cases Assoc.get? other values <;> rfl
  · rw [if_neg fun h => hapart h.1, if_neg hapart]
    cases Assoc.get? other values <;> rfl

include hvalues hfield hrequired in
/-- **A new object is filled in the language it is made in.** -/
theorem filled_newborn (hfree : "created".toList ∉ Assoc.keys values)
    (hfree' : "modified".toList ∉ Assoc.keys values) {now : Int}
    (hcheck : missing? schema values lang .empty = none) :
    (StoredObject.newborn schema defaultLang lang values now).Filled lang field := by
  obtain ⟨hcreated, hmodified⟩ :=
    born_holds (localValue?_empty "created") (localValue?_empty "modified") now
  by_cases hfirst : field = "created".toList
  · exact hfirst ▸ (hcreated.writeAll schema defaultLang lang hfree).filled lang
  by_cases hsecond : field = "modified".toList
  · exact hsecond ▸ (hmodified.writeAll schema defaultLang lang hfree').filled lang
  intro hdraft
  rw [value_newborn_self hvalues (by decide) (by decide)] at hdraft
  rw [value_newborn_self hvalues hfirst hsecond]
  exact not_isBlank_of_missing? hcheck hdraft hfield hrequired

end Write

end StoredObject

end HttpExchange
