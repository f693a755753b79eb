import HttpExchange.Headers.Cookie
import HttpExchange.Headers.MediaType
import HttpExchange.Proofs.Assoc
import HttpExchange.Proofs.Headers.Pairs
import Mathlib.Data.List.DropRight

/-!
# Header fields as a list of pairs

The fields of a message are a multimap from names to values, in which the spelling
of a name does not matter. It is a plain list of pairs here, one for each value:
setting a name puts one pair in the place of all its pairs, appending adds one
behind the last of them, and removing drops them all. Fields that start from pairs
and go through any edits say what the list says that goes through the same edits.

The fields keep the pairs of a name together, so the list is a block of pairs for
each field, and every edit is an edit of one block.

## Main definitions

* `Multimap.set`, `Multimap.append`, `Multimap.remove` — edits of a list of pairs.
* `FieldEdit` — an edit of fields, with what it does to fields and to pairs.
* `Headers.Sound` — what the edits keep of the fields.
* `Headers.Refines` — fields that say what a list of pairs says.

## Main results

* `Headers.Sound.pairs_apply` — an edit of the fields is the edit of their pairs.
* `Headers.refines_run` — after any edits, fields say what their pairs say.
-/

namespace HttpExchange

/-! ## Lists of pairs -/

/-- A list of named values, one pair for each value. -/
abbrev Multimap := List (Text × Text)

namespace Multimap

/-- Whether a pair has a name, up to case and the blanks around it. -/
def isOf (name : Text) (p : Text × Text) : Bool :=
  Text.eqIgnoreCase (Text.trim p.1) (Text.trim name)

/-- The spelling of a name: that of its first pair. -/
def spelling (name : Text) (ps : Multimap) : Text :=
  ((ps.find? (isOf name)).map Prod.fst).getD (Text.trim name)

/-- Puts one pair in the place of the pairs of a name. -/
def set (name value : Text) (ps : Multimap) : Multimap :=
  ps.takeWhile (!isOf name ·) ++ (spelling name ps, value) ::
    (ps.dropWhile (!isOf name ·)).filter (!isOf name ·)

/-- Adds a pair behind the last pair of its name. -/
def append (name value : Text) (ps : Multimap) : Multimap :=
  if ps.any (isOf name) then
    ps.rdropWhile (!isOf name ·) ++ (spelling name ps, value) :: ps.rtakeWhile (!isOf name ·)
  else ps ++ [(Text.trim name, value)]

/-- Drops the pairs of a name. -/
def remove (name : Text) (ps : Multimap) : Multimap := ps.filter (!isOf name ·)

/-- The values of a name. -/
def valuesOf (name : Text) (ps : Multimap) : List Text := (ps.filter (isOf name)).map Prod.snd

/-- Whether a name has a value. -/
def contains (name : Text) (ps : Multimap) : Bool := ps.any (isOf name)

/-- The list that results from adding some pairs one after the other. -/
def ofPairs (ps : List (Text × Text)) : Multimap :=
  ps.foldl (fun m (name, value) => append name value m) []

/-- The pair of the media type, with some parts of it changed. -/
def updateMediaType (new : MediaType) (ps : Multimap) : Multimap :=
  let old := ((valuesOf "Content-Type" ps).head?.map MediaType.read).getD .empty
  set "Content-Type" (old.update new).text ps

/-! ### Blocks

The pairs of a name stand together, between pairs of other names. A name without
pairs is an empty block at the end, where its first pair will go. -/

/-- The pairs of a name among those of other names. -/
structure IsBlock (name : Text) (ps before : Multimap) (spelled : Text) (values : List Text)
    (after : Multimap) : Prop where
  pairs : ps = before ++ values.map (spelled, ·) ++ after
  othersBefore : ∀ p ∈ before, isOf name p = false
  othersAfter : ∀ p ∈ after, isOf name p = false
  named : ∀ v, isOf name (spelled, v) = true
  new : values = [] → spelled = Text.trim name ∧ after = []

namespace IsBlock

variable {name spelled : Text} {ps before after : Multimap} {values : List Text}

theorem isOf_of_mem (h : IsBlock name ps before spelled values after) :
    ∀ p ∈ values.map (spelled, ·), isOf name p = true := by
  intro p hp
  obtain ⟨v, -, rfl⟩ := List.mem_map.mp hp
  exact h.named v

theorem filter_isOf (h : IsBlock name ps before spelled values after) :
    ps.filter (isOf name) = values.map (spelled, ·) := by
  have hbefore : before.filter (isOf name) = [] :=
    List.filter_eq_nil_iff.mpr fun p hp => Bool.not_eq_true _ ▸ h.othersBefore p hp
  have hafter : after.filter (isOf name) = [] :=
    List.filter_eq_nil_iff.mpr fun p hp => Bool.not_eq_true _ ▸ h.othersAfter p hp
  rw [h.pairs, List.filter_append, List.filter_append, hbefore, hafter,
    List.filter_eq_self.mpr h.isOf_of_mem, List.nil_append, List.append_nil]

theorem valuesOf (h : IsBlock name ps before spelled values after) :
    valuesOf name ps = values := by
  rw [Multimap.valuesOf, h.filter_isOf, List.map_map]
  exact List.map_id values

theorem any_isOf (h : IsBlock name ps before spelled values after) :
    ps.any (isOf name) = !values.isEmpty := by
  rw [List.any_eq_not_all_not, ← List.isEmpty_map (f := (spelled, ·)), ← h.filter_isOf]
  congr 1
  rw [Bool.eq_iff_iff, List.all_eq_true, List.isEmpty_iff, List.filter_eq_nil_iff]
  exact forall₂_congr fun p _ => by rw [Bool.not_eq_true', Bool.not_eq_true]

theorem spelling (h : IsBlock name ps before spelled values after) :
    spelling name ps = spelled := by
  rw [Multimap.spelling, ← List.head?_filter, h.filter_isOf, List.head?_map]
  cases values with
  | nil => exact (h.new rfl).1.symm
  | cons v values => rfl

theorem remove (h : IsBlock name ps before spelled values after) :
    remove name ps = before ++ after := by
  have hbefore : before.filter (!isOf name ·) = before :=
    List.filter_eq_self.mpr fun p hp => by rw [h.othersBefore p hp]; rfl
  have hblock : (values.map (spelled, ·)).filter (!isOf name ·) = [] :=
    List.filter_eq_nil_iff.mpr fun p hp => by rw [h.isOf_of_mem p hp]; decide
  have hafter : after.filter (!isOf name ·) = after :=
    List.filter_eq_self.mpr fun p hp => by rw [h.othersAfter p hp]; rfl
  rw [Multimap.remove, h.pairs, List.filter_append, List.filter_append, hbefore, hblock, hafter,
    List.append_nil]

/-- The pairs before a block are those before the first pair of the name. -/
theorem takeWhile (h : IsBlock name ps before spelled values after) :
    ps.takeWhile (!isOf name ·) = before := by
  rw [h.pairs, List.append_assoc,
    List.takeWhile_append_of_pos fun p hp => by rw [h.othersBefore p hp]; rfl]
  cases values with
  | nil => rw [(h.new rfl).2]; exact List.append_nil before
  | cons v values =>
      rw [List.map_cons, List.cons_append, List.takeWhile_cons, h.named v]
      exact List.append_nil before

theorem set (h : IsBlock name ps before spelled values after) (value : Text) :
    set name value ps = before ++ (spelled, value) :: after := by
  have hrest : (ps.dropWhile (!isOf name ·)).filter (!isOf name ·) = after := by
    have hremove := h.remove
    rw [Multimap.remove, ← List.takeWhile_append_dropWhile (p := (!isOf name ·)) (l := ps),
      List.filter_append, h.takeWhile, List.filter_eq_self.mpr
        fun p hp => by rw [h.othersBefore p hp]; rfl] at hremove
    exact List.append_cancel_left hremove
  rw [Multimap.set, h.takeWhile, h.spelling, hrest]

/-- The pairs after a block are those after the last pair of the name. -/
theorem rtakeWhile (h : IsBlock name ps before spelled values after) (hvalues : values ≠ []) :
    ps.rtakeWhile (!isOf name ·) = after := by
  obtain ⟨init, last, rfl⟩ := List.eq_nil_or_concat' values |>.resolve_left hvalues
  rw [List.rtakeWhile, h.pairs, List.reverse_append, List.takeWhile_append_of_pos fun p hp => by
      rw [h.othersAfter p (List.mem_reverse.mp hp)]; rfl,
    List.map_append, List.map_singleton, ← List.append_assoc, List.reverse_concat,
    List.takeWhile_cons, h.named last]
  exact (congrArg List.reverse (List.append_nil _)).trans (List.reverse_reverse after)

theorem append (h : IsBlock name ps before spelled values after) (value : Text) :
    append name value ps = before ++ (values ++ [value]).map (spelled, ·) ++ after := by
  rw [Multimap.append, h.any_isOf]
  by_cases hvalues : values = []
  · obtain ⟨hspelled, hafter⟩ := h.new hvalues
    rw [h.pairs, hvalues, hafter, hspelled]
    simp
  · have hrest := h.rtakeWhile hvalues
    have hstart : ps.rdropWhile (!isOf name ·) = before ++ values.map (spelled, ·) := by
      have hsplit := List.rdropWhile_append_rtakeWhile (p := (!isOf name ·)) (l := ps)
      rw [hrest] at hsplit
      exact List.append_cancel_right (hsplit.trans h.pairs)
    rw [if_pos (by rw [List.isEmpty_eq_false_iff.mpr hvalues]; rfl), hstart, hrest, h.spelling]
    simp

end IsBlock

end Multimap

/-! ## Edits of fields -/

/-- An edit of the fields of a message. -/
inductive FieldEdit where
  | set (name value : Text)
  | append (name value : Text)
  | remove (name : Text)
  | cookie (name value : Text) (params : CookieParams)
  | contentType (type : Text)
  | charset (value : Text)
  deriving DecidableEq, Repr

namespace FieldEdit

/-- The name of the field that an edit is about. -/
def name : FieldEdit → Text
  | set name _ => name
  | append name _ => name
  | remove name => name
  | cookie _ _ _ => "Set-Cookie"
  | contentType _ => "Content-Type"
  | charset _ => "Content-Type"

/-- What an edit does to fields. -/
def apply (hs : Headers) : FieldEdit → Headers
  | set name value => hs.set name value
  | append name value => hs.append name value
  | remove name => hs.remove name
  | cookie name value params => hs.setCookie name value params
  | contentType type => hs.setContentType type
  | charset value => hs.setCharset value

/-- What an edit does to pairs. -/
def applyPairs (ps : Multimap) : FieldEdit → Multimap
  | set name value => ps.set name value
  | append name value => ps.append name value
  | remove name => ps.remove name
  | cookie name value params => ps.append "Set-Cookie" (Headers.cookieText name value params)
  | contentType type => ps.updateMediaType (MediaType.read type)
  | charset value => ps.updateMediaType ⟨none, [("charset", Text.trim value)]⟩

/-- Whether an edit removes its field. -/
def removes : FieldEdit → Bool
  | remove _ => true
  | _ => false

/-- How a name is spelled after an edit: as it is first, until it is removed. -/
def spelled (name : Text) (kept : Option Text) (e : FieldEdit) : Option Text :=
  if Multimap.isOf name (e.name, []) then
    if e.removes then none else some (kept.getD (Text.trim e.name))
  else kept

/-- An edit removes its field, or it gives it other values. -/
theorem apply_cases (hs : Headers) (e : FieldEdit) :
    (e.removes = true ∧ e.apply hs = hs.remove e.name) ∨
      (e.removes = false ∧ ∃ f : List Text → List Text, (∀ vs, f vs ≠ []) ∧
        e.apply hs = hs.edit f e.name) := by
  have happend (name value : Text) : ∃ f : List Text → List Text, (∀ vs, f vs ≠ []) ∧
      hs.append name value = hs.edit f name :=
    ⟨_, fun vs => List.append_ne_nil_of_right_ne_nil vs (List.cons_ne_nil value []),
      Headers.append_eq_edit name value hs⟩
  have hset (name value : Text) : ∃ f : List Text → List Text, (∀ vs, f vs ≠ []) ∧
      hs.set name value = hs.edit f name :=
    ⟨_, fun _ => List.cons_ne_nil value [], Headers.set_eq_edit name value hs⟩
  cases e with
  | remove name => exact .inl ⟨rfl, rfl⟩
  | append name value => exact .inr ⟨rfl, happend _ _⟩
  | cookie name value params => exact .inr ⟨rfl, happend _ _⟩
  | set name value => exact .inr ⟨rfl, hset _ _⟩
  | contentType type => exact .inr ⟨rfl, hset _ _⟩
  | charset value => exact .inr ⟨rfl, hset _ _⟩

end FieldEdit

namespace Headers

/-! ## Fields that edits lead to -/

/-- Fields whose names differ by more than case and have no blanks around them, each
with at least one value. -/
structure Sound (hs : Headers) : Prop where
  distinct : (keys hs).Nodup
  trimmed : ∀ h ∈ hs, Text.trim h.name = h.name
  valued : ∀ h ∈ hs, h.values ≠ []

variable {hs : Headers}

theorem Sound.nil : Sound [] := ⟨List.nodup_nil, (nomatch ·, ·), (nomatch ·, ·)⟩

theorem Sound.edit (h : hs.Sound) (name : Text) {f : List Text → List Text}
    (hvalued : ∀ vs, f vs ≠ []) : (edit f name hs).Sound where
  distinct := nodup_keys_edit h.distinct f name
  trimmed field hfield := by
    rcases mem_edit hfield with hold | ⟨old, hold, rfl⟩ | rfl
    · exact h.trimmed field hold
    · exact h.trimmed old hold
    · exact Text.trim_trim name
  valued field hfield := by
    rcases mem_edit hfield with hold | ⟨old, hold, rfl⟩ | rfl
    · exact h.valued field hold
    · exact hvalued old.values
    · exact hvalued []

theorem remove_sublist (name : Text) (hs : Headers) : (remove name hs).Sublist hs := by
  induction hs with
  | nil => exact .slnil
  | cons h hs ih =>
      rw [remove]
      split
      · exact List.sublist_cons_self h hs
      · exact ih.cons_cons h

theorem Sound.sublist (h : hs.Sound) {hs' : Headers} (hsub : hs'.Sublist hs) : hs'.Sound where
  distinct := h.distinct.sublist (hsub.map Header.key)
  trimmed field hfield := h.trimmed field (hsub.subset hfield)
  valued field hfield := h.valued field (hsub.subset hfield)

theorem Sound.apply (h : hs.Sound) (e : FieldEdit) : (e.apply hs).Sound := by
  obtain ⟨-, heq⟩ | ⟨-, f, hvalued, heq⟩ := e.apply_cases hs
  · rw [heq]
    exact h.sublist (remove_sublist e.name hs)
  · rw [heq]
    exact h.edit e.name hvalued

/-! ## A field and its block -/

theorem isOf_field {field : Header} (htrimmed : Text.trim field.name = field.name)
    (name value : Text) :
    Multimap.isOf name (field.name, value) = (field.key == keyOf name) := by
  rw [Multimap.isOf, htrimmed]
  rfl

theorem isOf_of_mem_pairs (htrimmed : ∀ h ∈ hs, Text.trim h.name = h.name) {name : Text}
    (hname : keyOf name ∉ keys hs) : ∀ p ∈ pairs hs, Multimap.isOf name p = false := by
  intro p hp
  obtain ⟨field, hfield, hp⟩ := List.mem_flatMap.mp hp
  obtain ⟨value, -, rfl⟩ := List.mem_map.mp hp
  rw [isOf_field (htrimmed field hfield), beq_eq_false_iff_ne]
  intro hkey
  exact hname (hkey ▸ List.mem_map.mpr ⟨field, hfield, rfl⟩)

/-- The field of a name among the others. A field that is not there yet stands last and
has no values. -/
structure IsPlace (name : Text) (hs before : Headers) (field : Header) (after : Headers) :
    Prop where
  block : Multimap.IsBlock name (pairs hs) (pairs before) field.name field.values (pairs after)
  edit : ∀ f, edit f name hs = before ++ { field with values := f field.values } :: after
  remove : remove name hs = before ++ after
  found : field? name hs = if field.values.isEmpty then none else some field

theorem IsPlace.cons {name : Text} {before after : Headers} {h field : Header}
    (hplace : IsPlace name hs before field after) (htrimmed : Text.trim h.name = h.name)
    (hkey : h.key ≠ keyOf name) : IsPlace name (h :: hs) (h :: before) field after where
  block := {
    hplace.block with
    pairs := by rw [pairs_cons, pairs_cons, hplace.block.pairs]; simp
    othersBefore := by
      intro p hp
      rcases List.mem_append.mp hp with hp | hp
      · obtain ⟨value, -, rfl⟩ := List.mem_map.mp hp
        rw [isOf_field htrimmed, beq_eq_false_iff_ne]
        exact hkey
      · exact hplace.block.othersBefore p hp }
  edit f := by rw [Headers.edit, if_neg hkey, hplace.edit f]; rfl
  remove := by rw [Headers.remove, if_neg hkey, hplace.remove]; rfl
  found := by
    rw [field?, List.find?_cons_of_neg (by rw [beq_iff_eq]; exact hkey)]
    exact hplace.found

theorem Sound.exists_isPlace (h : hs.Sound) (name : Text) :
    ∃ before field after, IsPlace name hs before field after := by
  induction hs with
  | nil =>
      refine ⟨[], ⟨Text.trim name, []⟩, [], ⟨rfl, nofun, nofun, fun v => ?_, fun _ => ⟨rfl, rfl⟩⟩,
        fun f => rfl, rfl, rfl⟩
      rw [Multimap.isOf, Text.trim_trim]
      exact beq_self_eq_true _
  | cons field hs ih =>
      have htrimmed := h.trimmed field List.mem_cons_self
      have hvalued := h.valued field List.mem_cons_self
      by_cases hkey : field.key = keyOf name
      · have hother : keyOf name ∉ keys hs := hkey ▸ (List.nodup_cons.mp h.distinct).1
        refine ⟨[], field, hs, ⟨rfl, nofun, isOf_of_mem_pairs
          (fun f hf => h.trimmed f (List.mem_cons_of_mem field hf)) hother, fun v => ?_,
          fun hempty => absurd hempty hvalued⟩, fun f => ?_, ?_, ?_⟩
        · rw [isOf_field htrimmed, beq_iff_eq]
          exact hkey
        · rw [Headers.edit, if_pos hkey]
          rfl
        · rw [Headers.remove, if_pos hkey]
          rfl
        · rw [field?, List.find?_cons_of_pos (by rw [beq_iff_eq]; exact hkey),
            List.isEmpty_eq_false_iff.mpr hvalued]
          rfl
      · obtain ⟨before, found, after, hplace⟩ := ih (h.sublist (List.sublist_cons_self field hs))
        exact ⟨field :: before, found, after, hplace.cons htrimmed hkey⟩

/-! ## Edits and reads by pairs -/

theorem Sound.pairs_set (h : hs.Sound) (name value : Text) :
    pairs (Headers.set name value hs) = Multimap.set name value (pairs hs) := by
  obtain ⟨before, field, after, hplace⟩ := h.exists_isPlace name
  rw [set_eq_edit, hplace.edit, hplace.block.set, pairs_append, pairs_cons]
  rfl

theorem Sound.pairs_append (h : hs.Sound) (name value : Text) :
    pairs (Headers.append name value hs) = Multimap.append name value (pairs hs) := by
  obtain ⟨before, field, after, hplace⟩ := h.exists_isPlace name
  rw [append_eq_edit, hplace.edit, hplace.block.append, Headers.pairs_append, pairs_cons,
    List.append_assoc]

theorem Sound.pairs_remove (h : hs.Sound) (name : Text) :
    pairs (Headers.remove name hs) = Multimap.remove name (pairs hs) := by
  obtain ⟨before, field, after, hplace⟩ := h.exists_isPlace name
  rw [hplace.remove, hplace.block.remove, Headers.pairs_append]

theorem Sound.valuesOf_pairs (h : hs.Sound) (name : Text) :
    Multimap.valuesOf name (pairs hs) = valuesOf name hs := by
  obtain ⟨before, field, after, hplace⟩ := h.exists_isPlace name
  rw [hplace.block.valuesOf, valuesOf, hplace.found]
  cases hvalues : field.values <;> simp [hvalues]

theorem Sound.contains_pairs (h : hs.Sound) (name : Text) :
    Multimap.contains name (pairs hs) = contains name hs := by
  obtain ⟨before, field, after, hplace⟩ := h.exists_isPlace name
  rw [Multimap.contains, hplace.block.any_isOf, contains, hplace.found]
  cases hvalues : field.values <;> simp

theorem removed?_eq (name : Text) (hs : Headers) :
    removed? name hs = if contains name hs then some (valuesOf name hs) else none := by
  rw [removed?, contains, valuesOf]
  cases field? name hs <;> rfl

theorem Sound.pairs_updateMediaType (h : hs.Sound) (new : MediaType) :
    pairs (updateMediaType new hs) = Multimap.updateMediaType new (pairs hs) := by
  rw [updateMediaType, h.pairs_set, Multimap.updateMediaType, h.valuesOf_pairs]
  rfl

/-- **An edit of the fields is the edit of their pairs.** -/
theorem Sound.pairs_apply (h : hs.Sound) (e : FieldEdit) :
    pairs (e.apply hs) = e.applyPairs (pairs hs) := by
  cases e with
  | set name value => exact h.pairs_set name value
  | append name value => exact h.pairs_append name value
  | remove name => exact h.pairs_remove name
  | cookie name value params => exact h.pairs_append _ _
  | contentType type => exact h.pairs_updateMediaType _
  | charset value => exact h.pairs_updateMediaType _

theorem Sound.run (h : hs.Sound) (edits : List FieldEdit) :
    (edits.foldl FieldEdit.apply hs).Sound ∧
      pairs (edits.foldl FieldEdit.apply hs) = edits.foldl FieldEdit.applyPairs (pairs hs) := by
  induction edits generalizing hs with
  | nil => exact ⟨h, rfl⟩
  | cons e edits ih =>
      rw [List.foldl_cons, List.foldl_cons, ← h.pairs_apply e]
      exact ih (h.apply e)

/-! ## How a name is spelled -/

/-- The name of a field as it is written. -/
def spelling? (name : Text) (hs : Headers) : Option Text := (field? name hs).map (·.name)

theorem spelling?_cons (name : Text) (h : Header) (hs : Headers) :
    spelling? name (h :: hs) = if h.key = keyOf name then some h.name else spelling? name hs := by
  by_cases hkey : h.key = keyOf name
  · simp [spelling?, field?, hkey]
  · simp [spelling?, field?, hkey]

theorem spelling?_of_not_mem {name : Text} (h : keyOf name ∉ keys hs) :
    spelling? name hs = none := by
  induction hs with
  | nil => rfl
  | cons field hs ih =>
      rw [keys, List.map_cons, List.mem_cons, not_or] at h
      rw [spelling?_cons, if_neg (Ne.symm h.1)]
      exact ih h.2

/-- An edited field keeps its spelling, and the other fields keep theirs. -/
theorem spelling?_edit (f : List Text → List Text) (name other : Text) (hs : Headers) :
    spelling? other (edit f name hs) =
      if keyOf name = keyOf other then some ((spelling? other hs).getD (Text.trim name))
      else spelling? other hs := by
  induction hs with
  | nil => rw [edit, spelling?_cons, key_mk]; rfl
  | cons h hs ih =>
      by_cases hkey : h.key = keyOf name
      · have hkept : Header.key { h with values := f h.values } = keyOf name := hkey
        rw [edit, if_pos hkey, spelling?_cons, spelling?_cons, hkept, hkey]
        split <;> rfl
      · rw [edit, if_neg hkey, spelling?_cons, spelling?_cons, ih]
        by_cases hother : h.key = keyOf other
        · have hname : keyOf name ≠ keyOf other := fun heq => hkey (hother.trans heq.symm)
          rw [if_pos hother, if_neg hname, if_pos hother]
        · rw [if_neg hother, if_neg hother]

theorem Sound.spelling?_remove (h : hs.Sound) (name other : Text) :
    spelling? other (Headers.remove name hs) =
      if keyOf name = keyOf other then none else spelling? other hs := by
  induction hs with
  | nil => rw [Headers.remove]; split <;> rfl
  | cons field hs ih =>
      by_cases hkey : field.key = keyOf name
      · rw [Headers.remove, if_pos hkey, spelling?_cons, hkey]
        split
        · next hother =>
            exact spelling?_of_not_mem (hother ▸ hkey ▸ (List.nodup_cons.mp h.distinct).1)
        · rfl
      · rw [Headers.remove, if_neg hkey, spelling?_cons, spelling?_cons,
          ih (h.sublist (List.sublist_cons_self field hs))]
        by_cases hother : field.key = keyOf other
        · have hname : keyOf name ≠ keyOf other := fun heq => hkey (hother.trans heq.symm)
          rw [if_pos hother, if_neg hname, if_pos hother]
        · rw [if_neg hother, if_neg hother]

theorem Sound.spelling?_apply (h : hs.Sound) (name : Text) (e : FieldEdit) :
    spelling? name (e.apply hs) = e.spelled name (spelling? name hs) := by
  have hname : (Multimap.isOf name (e.name, []) = true) = (keyOf e.name = keyOf name) :=
    propext beq_iff_eq
  obtain ⟨hremoves, heq⟩ | ⟨hremoves, f, -, heq⟩ := e.apply_cases hs
  · rw [heq, h.spelling?_remove, FieldEdit.spelled, hremoves]
    simp only [hname, if_true]
  · rw [heq, spelling?_edit, FieldEdit.spelled, hremoves]
    simp only [hname, Bool.false_eq_true, if_false]

theorem Sound.spelling?_run (h : hs.Sound) (name : Text) (edits : List FieldEdit) :
    spelling? name (edits.foldl FieldEdit.apply hs) =
      edits.foldl (FieldEdit.spelled name) (spelling? name hs) := by
  induction edits generalizing hs with
  | nil => rfl
  | cons e edits ih =>
      rw [List.foldl_cons, List.foldl_cons, ← h.spelling?_apply name e]
      exact ih (h.apply e)

/-! ## What fields say -/

/-- Fields that say what a list of pairs says, under every spelling of a name. -/
structure Refines (hs : Headers) (ps : Multimap) : Prop where
  pairs : hs.pairs = ps
  valued : ∀ h ∈ hs, h.values ≠ []
  distinct : hs.Pairwise fun h h' =>
    Text.eqIgnoreCase (Text.trim h.name) (Text.trim h'.name) = false
  valuesOf : ∀ name, hs.valuesOf name = ps.valuesOf name
  get? : ∀ name, hs.get? name = (ps.valuesOf name).head?
  contains : ∀ name, hs.contains name = ps.contains name
  removed? : ∀ name, hs.removed? name =
    if ps.contains name then some (ps.valuesOf name) else none
  toMap : hs.toMap.length = hs.length
  rebuilt : ofPairs hs.pairs = hs

theorem Sound.length_toMap (h : hs.Sound) : hs.toMap.length = hs.length := by
  have hnames : (hs.map Header.name).Nodup := by
    have hdistinct : ((hs.map Header.name).map Text.lower).Nodup := by
      rw [List.map_map]
      exact h.distinct
    exact List.Pairwise.of_map Text.lower (fun _ _ hne heq => hne (congrArg Text.lower heq))
      hdistinct
  rw [toMap, Assoc.ofList_of_nodup, List.length_map]
  rw [Assoc.keys, List.map_map]
  exact hnames

theorem Sound.refines (h : hs.Sound) : Refines hs (pairs hs) where
  pairs := rfl
  valued := h.valued
  distinct := by
    have hkeys := List.pairwise_map.mp h.distinct
    refine hkeys.imp_of_mem fun {a b} ha hb hne => ?_
    rw [h.trimmed a ha, h.trimmed b hb]
    exact beq_eq_false_iff_ne.mpr hne
  valuesOf name := (h.valuesOf_pairs name).symm
  get? name := by rw [h.valuesOf_pairs]; rfl
  contains name := (h.contains_pairs name).symm
  removed? name := by rw [h.valuesOf_pairs, h.contains_pairs, removed?_eq]
  toMap := h.length_toMap
  rebuilt := foldl_append_pairs h.distinct h.trimmed h.valued

theorem ofPairs_eq_run (ps : List (Text × Text)) :
    ofPairs ps = (ps.map fun p => FieldEdit.append p.1 p.2).foldl FieldEdit.apply [] := by
  rw [List.foldl_map]
  rfl

theorem ofPairs_eq_runPairs (ps : List (Text × Text)) :
    Multimap.ofPairs ps =
      (ps.map fun p => FieldEdit.append p.1 p.2).foldl FieldEdit.applyPairs [] := by
  rw [List.foldl_map]
  rfl

/-- **Fields that start from pairs and go through any edits say what the pairs say that go
through the same edits.** The first spelling of a name is kept until the name is removed. -/
theorem refines_run (ps : List (Text × Text)) (edits : List FieldEdit) :
    Refines (edits.foldl FieldEdit.apply (ofPairs ps))
        (edits.foldl FieldEdit.applyPairs (Multimap.ofPairs ps)) ∧
      ∀ name, spelling? name (edits.foldl FieldEdit.apply (ofPairs ps)) =
        ((ps.map fun p => FieldEdit.append p.1 p.2) ++ edits).foldl
          (FieldEdit.spelled name) none := by
  rw [ofPairs_eq_run, ofPairs_eq_runPairs, ← List.foldl_append, ← List.foldl_append]
  obtain ⟨hsound, hpairs⟩ := Sound.nil.run ((ps.map fun p => FieldEdit.append p.1 p.2) ++ edits)
  refine ⟨?_, fun name => Sound.nil.spelling?_run name _⟩
  have hrefines := hsound.refines
  rw [hpairs] at hrefines
  exact hrefines

end Headers

end HttpExchange
