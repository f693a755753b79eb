import HttpExchange.Headers.Basic

/-!
# The values of a field after an edit

An edit of a field changes the values of that field and of no other, whatever
the spelling of the name. Setting and appending are the same edit, but for what
it makes of the values.
-/

namespace HttpExchange.Headers

/-- Changes the values of a field, which has none before it is there. -/
def edit (f : List Text → List Text) (name : Text) : Headers → Headers
  | [] => [⟨Text.trim name, f []⟩]
  | h :: hs =>
    if h.key = keyOf name then { h with values := f h.values } :: hs else h :: edit f name hs

theorem set_eq_edit (name value : Text) (hs : Headers) :
    set name value hs = edit (fun _ => [value]) name hs := by
  induction hs with
  | nil => rfl
  | cons h hs ih => rw [set, edit, ih]

theorem append_eq_edit (name value : Text) (hs : Headers) :
    append name value hs = edit (· ++ [value]) name hs := by
  induction hs with
  | nil => rfl
  | cons h hs ih => rw [append, edit, ih]

/-- Of two values that a field is set to, the second one remains. -/
theorem set_set (name first second : Text) (hs : Headers) :
    set name second (set name first hs) = set name second hs := by
  induction hs with
  | nil => exact if_pos rfl
  | cons h hs ih =>
      by_cases hkey : h.key = keyOf name
      · have hkept : Header.key { h with values := [first] } = keyOf name := hkey
        rw [set, set, if_pos hkey, if_pos hkey, set, if_pos hkept]
      · rw [set, set, if_neg hkey, if_neg hkey, set, if_neg hkey, ih]

@[simp] theorem key_mk (name : Text) (values : List Text) :
    Header.key ⟨Text.trim name, values⟩ = keyOf name := rfl

theorem valuesOf_cons (name : Text) (h : Header) (hs : Headers) :
    valuesOf name (h :: hs) = if h.key = keyOf name then h.values else valuesOf name hs := by
  by_cases hkey : h.key = keyOf name
  · simp [valuesOf, field?, hkey]
  · simp [valuesOf, field?, hkey]

/-- An edited field has the changed values, and the other fields keep theirs. -/
theorem valuesOf_edit (f : List Text → List Text) (name other : Text) (hs : Headers) :
    valuesOf other (edit f name hs) =
      if keyOf name = keyOf other then f (valuesOf other hs) else valuesOf other hs := by
  induction hs with
  | nil => rw [edit, valuesOf_cons, key_mk]; rfl
  | cons h hs ih =>
      by_cases hkey : h.key = keyOf name
      · have hkept : Header.key { h with values := f h.values } = keyOf name := hkey
        rw [edit, if_pos hkey, valuesOf_cons, valuesOf_cons, hkept, hkey]
        split <;> rfl
      · rw [edit, if_neg hkey, valuesOf_cons, valuesOf_cons, ih]
        by_cases hother : h.key = keyOf other
        · have hname : keyOf name ≠ keyOf other := fun heq => hkey (hother.trans heq.symm)
          rw [if_pos hother, if_neg hname, if_pos hother]
        · rw [if_neg hother, if_neg hother]

/-- Setting a field gives it one value, and the other fields keep theirs. -/
theorem valuesOf_set (name other value : Text) (hs : Headers) :
    valuesOf other (set name value hs) =
      if keyOf name = keyOf other then [value] else valuesOf other hs := by
  rw [set_eq_edit, valuesOf_edit]

/-- Appending to a field adds one value to it, and the other fields keep theirs. -/
theorem valuesOf_append (name other value : Text) (hs : Headers) :
    valuesOf other (append name value hs) =
      if keyOf name = keyOf other then valuesOf other hs ++ [value] else valuesOf other hs := by
  rw [append_eq_edit, valuesOf_edit]

theorem get?_set_self {name other : Text} (h : keyOf name = keyOf other) (value : Text)
    (hs : Headers) : get? other (set name value hs) = some value := by
  rw [get?, valuesOf_set, if_pos h]
  rfl

theorem get?_set_of_ne {name other : Text} (h : keyOf name ≠ keyOf other) (value : Text)
    (hs : Headers) : get? other (set name value hs) = get? other hs := by
  rw [get?, valuesOf_set, if_neg h]
  rfl

theorem get?_append_of_ne {name other : Text} (h : keyOf name ≠ keyOf other) (value : Text)
    (hs : Headers) : get? other (append name value hs) = get? other hs := by
  rw [get?, valuesOf_append, if_neg h]
  rfl

end HttpExchange.Headers
