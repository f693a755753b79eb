import HttpExchange.Proofs.Assoc
import HttpExchange.Proofs.Numeral.Integer
import HttpExchange.Proofs.Text.Blank
import HttpExchange.Proofs.Xml.Name
import HttpExchange.Xml.Record

/-!
# Records and how they are written

The children of an element are members under distinct names: a name that belongs
to one child only, or the next number, and no name is a number. So the value of a
record keeps all of its children, and what is written of the value is the record,
element by element.

## Main definitions

* `Record.IsSound` — the records of elements that were read.
* `Record.IsDistinct` — the records in which nothing is under the name of another.
* `Record.written` — a record as it is written.

## Main results

* `nodup_keysFrom_place` — the children of an element have distinct names.
* `toJson_injective` — a record is found again in its value.
* `IsDistinct.write?_toJson` — the value of a record is written as the record.
-/

namespace HttpExchange.Xml

namespace Record

/-! ## The names of children -/

/-- Whether a text begins as a name does. -/
def IsKey (key : Text) : Prop := ∃ c ∈ key.head?, isNameStart c = true

theorem IsKey.ne_ofNat {key : Text} (h : IsKey key) (n : Nat) : key ≠ Numeral.ofNat n := by
  obtain ⟨c, hc, hstart⟩ := h
  rintro rfl
  have hdigit := Numeral.isDigit_of_mem_ofNat (List.mem_of_mem_head? hc)
  rw [not_isDigit_of_isNameStart hstart] at hdigit
  cases hdigit

theorem mem_keysFrom {key : Text} {next : Nat} {names : List (Option Text)}
    (h : key ∈ keysFrom next names) : some key ∈ names ∨ ∃ n, next ≤ n ∧ key = Numeral.ofNat n := by
  induction names generalizing next with
  | nil => cases h
  | cons name names ih =>
      cases name with
      | some name =>
          rcases List.mem_cons.mp h with rfl | hrest
          · exact .inl List.mem_cons_self
          · exact (ih hrest).imp_left (List.mem_cons_of_mem _)
      | none =>
          rcases List.mem_cons.mp h with rfl | hrest
          · exact .inr ⟨next, Nat.le_refl next, rfl⟩
          · rcases ih hrest with hmem | ⟨n, hn, hkey⟩
            · exact .inl (List.mem_cons_of_mem _ hmem)
            · exact .inr ⟨n, Nat.le_of_succ_le hn, hkey⟩

/-- Children with distinct names of their own, none of them a number, and others by number, have
distinct names. -/
theorem nodup_keysFrom {names : List (Option Text)}
    (hkeys : ∀ key, some key ∈ names → ∀ n, key ≠ Numeral.ofNat n)
    (hdistinct : (names.filterMap id).Nodup) (next : Nat) : (keysFrom next names).Nodup := by
  induction names generalizing next with
  | nil => exact List.nodup_nil
  | cons name names ih =>
      have hrest := ih (fun key hmem => hkeys key (List.mem_cons_of_mem _ hmem))
      cases name with
      | some name =>
          change (name :: names.filterMap id).Nodup at hdistinct
          rw [List.nodup_cons] at hdistinct
          refine List.nodup_cons.mpr ⟨fun hmem => ?_, hrest hdistinct.2 next⟩
          rcases mem_keysFrom hmem with hname | ⟨n, -, hn⟩
          · exact hdistinct.1 (List.mem_filterMap.mpr ⟨some name, hname, rfl⟩)
          · exact hkeys name List.mem_cons_self n hn
      | none =>
          change (names.filterMap id).Nodup at hdistinct
          refine List.nodup_cons.mpr ⟨fun hmem => ?_, hrest hdistinct (next + 1)⟩
          rcases mem_keysFrom hmem with hname | ⟨n, hn, heq⟩
          · exact hkeys _ (List.mem_cons_of_mem _ hname) next rfl
          · have := Numeral.ofNat_injective heq
            omega

theorem filterMap_place_sublist (names : List Text) (children : List (Text × Record)) :
    List.Sublist ((children.map fun child =>
      if isPositional names child then none else some child.1).filterMap id)
      (children.map Prod.fst) := by
  induction children with
  | nil => exact List.Sublist.refl _
  | cons child children ih =>
      rw [List.map_cons, List.map_cons]
      split
      · exact ih.cons _
      · exact ih.cons_cons _

theorem fst_place (children : List (Text × Record)) :
    (place children).map Prod.fst = children.map fun child =>
      if isPositional (children.map Prod.fst) child then none else some child.1 := by
  rw [place, List.map_map]
  rfl

/-- A name that a child is found under is the name of a child. -/
theorem forall_mem_place {P : Text → Prop} {children : List (Text × Record)}
    (h : ∀ child ∈ children, P child.1) {key : Text}
    (hkey : some key ∈ (place children).map Prod.fst) : P key := by
  rw [fst_place] at hkey
  obtain ⟨child, hchild, heq⟩ := List.mem_map.mp hkey
  split at heq
  · cases heq
  · exact Option.some.inj heq ▸ h child hchild

/-- **The children of an element have distinct names.** -/
theorem nodup_keysFrom_place {children : List (Text × Record)}
    (hkeys : ∀ child ∈ children, ∀ n, child.1 ≠ Numeral.ofNat n) :
    (keysFrom 0 ((place children).map Prod.fst)).Nodup := by
  refine nodup_keysFrom (fun key hmem =>
    forall_mem_place (P := fun key => ∀ n, key ≠ Numeral.ofNat n) hkeys hmem) ?_ 0
  rw [fst_place]
  -- a name that is used occurs once
  rw [List.nodup_iff_count]
  intro key
  by_cases hmem : key ∈ (children.map fun child =>
      if isPositional (children.map Prod.fst) child then none else some child.1).filterMap id
  · refine Nat.le_trans ((filterMap_place_sublist _ children).count_le key) ?_
    obtain ⟨name, hname, heq⟩ := List.mem_filterMap.mp hmem
    obtain ⟨child, hchild, rfl⟩ := List.mem_map.mp hname
    split at heq
    · cases heq
    · next hplace =>
        obtain rfl : child.1 = key := Option.some.inj heq
        simp only [isPositional, Bool.or_eq_true, decide_eq_true_eq, not_or] at hplace
        exact Nat.le_of_not_lt hplace.2
  · rw [List.count_eq_zero_of_not_mem hmem]
    exact Nat.zero_le 1

/-! ## Records that are read -/

/-- An element without child elements has its text. -/
theorem ofElement_of_nil {nodes : List Node} (tag : Tag) (h : elementsOf nodes = []) :
    ofElement tag nodes = .mk tag.name.name (valueOf nodes) (attributesOf tag) false [] := by
  rw [ofElement, h]

/-- An element with child elements has these, each at its place. -/
theorem ofElement_of_ne_nil {nodes : List Node} (tag : Tag) (h : elementsOf nodes ≠ []) :
    ofElement tag nodes =
      .mk tag.name.name none (attributesOf tag) true (place (elementsOf nodes)) := by
  rw [ofElement]
  split
  · next hnil => exact absurd hnil h
  · rfl

/-- The text of an element: it is not blank at its ends, and a document may hold it. -/
structure IsValue (t : Text) : Prop where
  nonempty : t ≠ []
  trimmed : Text.trim t = t
  chars : ∀ c ∈ t, isChar c = true

/-- The attributes of an element: distinct names of characters that names have, and nothing is
blank at its ends. -/
structure AreAttributes (attributes : Assoc Text) : Prop where
  distinct : (Assoc.keys attributes).Nodup
  trimmed : ∀ a ∈ attributes, Text.trim a.1 = a.1 ∧ Text.trim a.2 = a.2
  chars : ∀ a ∈ attributes, ∀ c ∈ a.1, isNameChar c = true

/-- The records of elements that were read. -/
inductive IsSound : Record → Prop
  | leaf {name : Text} {value : Option Text} {attributes : Assoc Text} (hname : IsLocalName name)
      (hvalue : ∀ t ∈ value, IsValue t) (hattributes : AreAttributes attributes) :
      IsSound (.mk name value attributes false [])
  | branch {name : Text} {attributes : Assoc Text} {children : List (Option Text × Record)}
      (hname : IsLocalName name) (hattributes : AreAttributes attributes) (hne : children ≠ [])
      (hkeys : ∀ key, some key ∈ children.map Prod.fst → IsKey key)
      (hdistinct : (keysFrom 0 (children.map Prod.fst)).Nodup)
      (hchildren : ∀ child ∈ children, IsSound child.2) :
      IsSound (.mk name none attributes true children)

/-- The records in which nothing is under the name of another: no attribute of an element, and no
child. -/
inductive IsDistinct : Record → Prop
  | leaf {name : Text} {value : Option Text} {attributes : Assoc Text}
      (hattributes : (Assoc.keys attributes).Nodup) :
      IsDistinct (.mk name value attributes false [])
  | branch {name : Text} {attributes : Assoc Text} {children : List (Option Text × Record)}
      (hattributes : (Assoc.keys attributes).Nodup) (hne : children ≠ [])
      (hdistinct : (keysFrom 0 (children.map Prod.fst)).Nodup)
      (hchildren : ∀ child ∈ children, IsDistinct child.2) :
      IsDistinct (.mk name none attributes true children)

theorem IsSound.isDistinct {r : Record} (h : r.IsSound) : r.IsDistinct := by
  induction h with
  | leaf _ _ hattributes => exact .leaf hattributes.distinct
  | branch _ hattributes hne _ hdistinct _ ih => exact .branch hattributes.distinct hne hdistinct ih

/-! ## The value of a record -/

theorem length_keysFrom (next : Nat) (names : List (Option Text)) :
    (keysFrom next names).length = names.length := by
  induction names generalizing next with
  | nil => rfl
  | cons name names ih =>
      cases name with
      | some name => exact congrArg (· + 1) (ih next)
      | none => exact congrArg (· + 1) (ih (next + 1))

theorem length_childValues (children : List (Option Text × Record)) :
    (childValues children).length = children.length := by
  induction children with
  | nil => rfl
  | cons child children ih => exact congrArg (· + 1) ih

theorem length_keysFrom_fst (children : List (Option Text × Record)) :
    (keysFrom 0 (children.map Prod.fst)).length = (childValues children).length := by
  rw [length_keysFrom, List.length_map, length_childValues]

/-- The children of a record as a value, when they have distinct names. -/
theorem childrenJson_eq {children : List (Option Text × Record)}
    (h : (keysFrom 0 (children.map Prod.fst)).Nodup) :
    childrenJson (children.map Prod.fst) (childValues children) =
      if (children.map Prod.fst).all (·.isNone) then .arr (childValues children)
      else .obj ((keysFrom 0 (children.map Prod.fst)).zip (childValues children)) := by
  have hsame := length_keysFrom_fst children
  have hmembers : Assoc.ofList ((keysFrom 0 (children.map Prod.fst)).zip (childValues children)) =
      (keysFrom 0 (children.map Prod.fst)).zip (childValues children) := by
    refine Assoc.ofList_of_nodup ?_
    rwa [Assoc.keys, List.map_fst_zip (Nat.le_of_eq hsame)]
  simp only [childrenJson, hmembers, Assoc.values, List.map_snd_zip (Nat.le_of_eq hsame.symm)]

/-- Names are found again among the names and the numbers of children. -/
theorem keysFrom_injective {names names' : List (Option Text)}
    (h : ∀ key, some key ∈ names → IsKey key) (h' : ∀ key, some key ∈ names' → IsKey key)
    {next : Nat} (heq : keysFrom next names = keysFrom next names') : names = names' := by
  induction names generalizing names' next with
  | nil =>
      cases names' with
      | nil => rfl
      | cons name' names' => cases name' <;> cases heq
  | cons name names ih =>
      have hrest : ∀ key, some key ∈ names → IsKey key := fun key hmem =>
        h key (List.mem_cons_of_mem _ hmem)
      cases names' with
      | nil => cases name <;> cases heq
      | cons name' names' =>
          have hrest' : ∀ key, some key ∈ names' → IsKey key := fun key hmem =>
            h' key (List.mem_cons_of_mem _ hmem)
          cases name with
          | some key =>
              cases name' with
              | some key' =>
                  obtain ⟨hkey, hnames⟩ := List.cons.inj heq
                  rw [hkey, ih hrest hrest' hnames]
              | none =>
                  exact absurd (List.cons.inj heq).1 ((h key List.mem_cons_self).ne_ofNat next)
          | none =>
              cases name' with
              | some key' =>
                  exact absurd (List.cons.inj heq).1.symm
                    ((h' key' List.mem_cons_self).ne_ofNat next)
              | none => rw [ih hrest hrest' (List.cons.inj heq).2]

theorem childValues_injective {children children' : List (Option Text × Record)}
    (h : ∀ child ∈ children, ∀ child' ∈ children', child.2.toJson = child'.2.toJson →
      child.2 = child'.2) (heq : childValues children = childValues children') :
    children.map Prod.snd = children'.map Prod.snd := by
  induction children generalizing children' with
  | nil =>
      cases children' with
      | nil => rfl
      | cons child' children' => cases heq
  | cons child children ih =>
      cases children' with
      | nil => cases heq
      | cons child' children' =>
          obtain ⟨hvalue, hvalues⟩ := List.cons.inj heq
          have hrest := ih (fun child hmem child' hmem' =>
            h child (List.mem_cons_of_mem _ hmem) child' (List.mem_cons_of_mem _ hmem')) hvalues
          rw [List.map_cons, List.map_cons, hrest,
            h child List.mem_cons_self child' List.mem_cons_self hvalue]

theorem eq_replicate_of_all_isNone {names : List (Option Text)}
    (h : names.all (·.isNone) = true) : names = List.replicate names.length none :=
  List.eq_replicate_of_mem fun name hmem =>
    Option.isNone_iff_eq_none.mp (List.all_eq_true.mp h name hmem)

/-- The children of a record are found again in their value. -/
theorem childrenJson_injective {children children' : List (Option Text × Record)}
    (hkeys : ∀ key, some key ∈ children.map Prod.fst → IsKey key)
    (hkeys' : ∀ key, some key ∈ children'.map Prod.fst → IsKey key)
    (hdistinct : (keysFrom 0 (children.map Prod.fst)).Nodup)
    (hdistinct' : (keysFrom 0 (children'.map Prod.fst)).Nodup)
    (h : ∀ child ∈ children, ∀ child' ∈ children', child.2.toJson = child'.2.toJson →
      child.2 = child'.2)
    (heq : childrenJson (children.map Prod.fst) (childValues children) =
      childrenJson (children'.map Prod.fst) (childValues children')) : children = children' := by
  have hlength := length_keysFrom_fst children
  have hlength' := length_keysFrom_fst children'
  have hparts : children.map Prod.fst = children'.map Prod.fst ∧
      childValues children = childValues children' := by
    rw [childrenJson_eq hdistinct, childrenJson_eq hdistinct'] at heq
    split at heq
    · next hnone =>
        split at heq
        · next hnone' =>
            -- children by number have nothing but their values
            have hvalues := Json.arr.inj heq
            refine ⟨?_, hvalues⟩
            rw [eq_replicate_of_all_isNone hnone, eq_replicate_of_all_isNone hnone',
              List.length_map, List.length_map, ← length_childValues, ← length_childValues, hvalues]
        · cases heq
    · split at heq
      · cases heq
      · have hmembers := Json.obj.inj heq
        have hnames : keysFrom 0 (children.map Prod.fst) = keysFrom 0 (children'.map Prod.fst) := by
          rw [← List.map_fst_zip (Nat.le_of_eq hlength), hmembers,
            List.map_fst_zip (Nat.le_of_eq hlength')]
        refine ⟨keysFrom_injective hkeys hkeys' hnames, ?_⟩
        rw [← List.map_snd_zip (Nat.le_of_eq hlength.symm), hmembers,
          List.map_snd_zip (Nat.le_of_eq hlength'.symm)]
  exact (List.zip_of_prod hparts.1 (childValues_injective h hparts.2)).trans
    (List.zip_of_prod rfl rfl).symm

theorem toJson_mk_inj {name name' : Text} {value value' : Option Text}
    {attributes attributes' : Assoc Text} {hasChildren hasChildren' : Bool}
    {children children' : List (Option Text × Record)} (hattributes : AreAttributes attributes)
    (hattributes' : AreAttributes attributes')
    (heq : toJson (.mk name value attributes hasChildren children) =
      toJson (.mk name' value' attributes' hasChildren' children')) :
    name = name' ∧ value = value' ∧ attributes = attributes' ∧ hasChildren = hasChildren' ∧
      childrenJson (children.map Prod.fst) (childValues children) =
        childrenJson (children'.map Prod.fst) (childValues children') := by
  simp only [toJson, Assoc.ofList_mapValues hattributes.distinct,
    Assoc.ofList_mapValues hattributes'.distinct, Json.obj.injEq, List.cons.injEq, Prod.mk.injEq,
    Json.str.injEq, Json.bool.injEq, true_and, and_true] at heq
  obtain ⟨hname, hvalue, hattributes, hhasChildren, hchildren⟩ := heq
  refine ⟨hname, ?_, ?_, hhasChildren, hchildren⟩
  · cases value with
    | none =>
        cases value' with
        | none => rfl
        | some t' => cases hvalue
    | some t =>
        cases value' with
        | none => cases hvalue
        | some t' => exact congrArg some (Json.str.inj hvalue)
  · refine (List.map_inj_right fun a b hab => ?_).mp hattributes
    obtain ⟨hkey, htext⟩ := Prod.mk.inj hab
    exact Prod.ext hkey (Json.str.inj htext)

/-- **A sound record is found again in its value.** -/
theorem toJson_injective {r r' : Record} (h : r.IsSound) (h' : r'.IsSound)
    (heq : r.toJson = r'.toJson) : r = r' := by
  induction h generalizing r' with
  | leaf _ _ hattributes =>
      cases h' with
      | leaf _ _ hattributes' =>
          obtain ⟨rfl, rfl, rfl, -, -⟩ := toJson_mk_inj hattributes hattributes' heq
          rfl
      | branch _ hattributes' =>
          obtain ⟨-, -, -, hhasChildren, -⟩ := toJson_mk_inj hattributes hattributes' heq
          cases hhasChildren
  | branch _ hattributes _ hkeys hdistinct hchildren ih =>
      cases h' with
      | leaf _ _ hattributes' =>
          obtain ⟨-, -, -, hhasChildren, -⟩ := toJson_mk_inj hattributes hattributes' heq
          cases hhasChildren
      | branch _ hattributes' _ hkeys' hdistinct' hchildren' =>
          obtain ⟨rfl, -, rfl, -, heq⟩ := toJson_mk_inj hattributes hattributes' heq
          rw [childrenJson_injective hkeys hkeys' hdistinct hdistinct'
            (fun child hmem child' hmem' heq => ih child hmem (hchildren' child' hmem') heq) heq]

/-! ## Writing -/

/-- An attribute as it is written. -/
def writtenAttribute (a : Text × Text) : Text :=
  ' ' :: a.1 ++ "=\"".toList ++ escapeText a.2 ++ ['"']

mutual

/-- A record as it is written. -/
def written : Record → Text
  | .mk name value attributes _ children =>
    '<' :: name ++ attributes.flatMap writtenAttribute ++
      '>' :: (escapeText (value.getD []) ++ writtenAll children) ++ "</".toList ++ name ++ ['>']

/-- The children of a record as they are written. -/
def writtenAll : List (Option Text × Record) → Text
  | [] => []
  | (_, child) :: rest => written child ++ writtenAll rest

end

theorem writeAttributes_obj (attributes : Assoc Text) :
    writeAttributes (some (.obj (attributes.mapValues Json.str))) =
      attributes.flatMap writtenAttribute := by
  rw [writeAttributes, Assoc.mapValues, List.flatMap_map]
  rfl

/-- The children of a record, written as items and as members. -/
theorem write?_childValues {children : List (Option Text × Record)}
    (h : ∀ child ∈ children, write? child.2.toJson = some child.2.written) :
    writeItems? (childValues children) = some (writtenAll children) ∧
      ∀ keys : List Text, keys.length = children.length →
        writeMembers? (keys.zip (childValues children)) = some (writtenAll children) := by
  induction children with
  | nil =>
      refine ⟨by simp [childValues, writeItems?, writtenAll], fun keys _ => ?_⟩
      simp [childValues, writeMembers?, writtenAll]
  | cons child children ih =>
      obtain ⟨hchild, hchildren⟩ := List.forall_mem_cons.mp h
      obtain ⟨hitems, hmembers⟩ := ih hchildren
      refine ⟨?_, fun keys hlength => ?_⟩
      · rw [childValues, writeItems?, hchild, hitems, writtenAll]
        rfl
      · cases keys with
        | nil => cases hlength
        | cons key keys =>
            rw [childValues, List.zip_cons_cons, writeMembers?, hchild,
              hmembers keys (Nat.succ.inj hlength), writtenAll]
            rfl

/-- What is written of a value with the members of a record. -/
theorem write?_members (name : Text) (value attributes hasChildren children : Json) :
    write? (.obj [("name", .str name), ("value", value), ("attributes", attributes),
        ("has_children", hasChildren), ("children", children)]) =
      (writeCollection? children).map fun inside =>
        '<' :: name ++ writeAttributes (some attributes) ++
          '>' :: inside.getD (writeValue (some value)) ++ "</".toList ++ name ++ ['>'] := by
  have hname : elementName? [("name", .str name), ("value", value), ("attributes", attributes),
      ("has_children", hasChildren), ("children", children)] = some name := rfl
  have hchildren : writeChildren? [("name", .str name), ("value", value),
      ("attributes", attributes), ("has_children", hasChildren), ("children", children)] =
      writeCollection? children := by
    rw [writeChildren?, if_neg (by decide), writeChildren?, if_neg (by decide), writeChildren?,
      if_neg (by decide), writeChildren?, if_neg (by decide), writeChildren?, if_pos rfl]
  rw [write?, hname, hchildren]
  cases writeCollection? children with
  | none => rfl
  | some inside => rfl

theorem writeCollection?_arr {items : List Json} (hne : items ≠ []) :
    writeCollection? (.arr items) = (writeItems? items).map some := by
  obtain ⟨v, items, rfl⟩ := List.exists_cons_of_ne_nil hne
  rw [writeCollection?, writeItems?]
  cases write? v with
  | none => rfl
  | some first => cases writeItems? items <;> rfl

theorem writeCollection?_obj {members : Members} (hne : members ≠ []) :
    writeCollection? (.obj members) = (writeMembers? members).map some := by
  obtain ⟨⟨k, v⟩, members, rfl⟩ := List.exists_cons_of_ne_nil hne
  rw [writeCollection?, writeMembers?]
  cases write? v with
  | none => rfl
  | some first => cases writeMembers? members <;> rfl

/-- Children with distinct names, as a value and as they are written. -/
theorem writeCollection?_childrenJson {children : List (Option Text × Record)} (hne : children ≠ [])
    (hdistinct : (keysFrom 0 (children.map Prod.fst)).Nodup)
    (h : ∀ child ∈ children, write? child.2.toJson = some child.2.written) :
    writeCollection? (childrenJson (children.map Prod.fst) (childValues children)) =
      some (some (writtenAll children)) := by
  have hlength : (keysFrom 0 (children.map Prod.fst)).length = children.length := by
    rw [length_keysFrom, List.length_map]
  obtain ⟨hitems, hkeyed⟩ := write?_childValues h
  have hitemsNe : childValues children ≠ [] := by
    rw [← List.length_pos_iff, length_childValues]
    exact List.length_pos_iff.mpr hne
  have hmembersNe : (keysFrom 0 (children.map Prod.fst)).zip (childValues children) ≠ [] := by
    rw [← List.length_pos_iff, List.length_zip, hlength, length_childValues, Nat.min_self]
    exact List.length_pos_iff.mpr hne
  rw [childrenJson_eq hdistinct]
  split
  · rw [writeCollection?_arr hitemsNe, hitems]
    rfl
  · rw [writeCollection?_obj hmembersNe, hkeyed _ hlength]
    rfl

/-- **The value of a record is written as the record** when nothing is under the name of another. -/
theorem IsDistinct.write?_toJson {r : Record} (h : r.IsDistinct) :
    write? r.toJson = some r.written := by
  induction h with
  | @leaf name value attributes hattributes =>
      have hnone : writeCollection? (childrenJson [] []) = some none := by
        rw [childrenJson]
        rfl
      rw [toJson, childValues, List.map_nil, write?_members, hnone,
        Assoc.ofList_mapValues hattributes, writeAttributes_obj, written, writtenAll,
        List.append_nil]
      cases value with
      | none => rfl
      | some t => rfl
  | @branch name attributes children hattributes hne hdistinct _ ih =>
      rw [toJson, write?_members, writeCollection?_childrenJson hne hdistinct ih,
        Assoc.ofList_mapValues hattributes, writeAttributes_obj, written]
      rfl

theorem write?_toJson {r : Record} (h : r.IsSound) : write? r.toJson = some r.written :=
  h.isDistinct.write?_toJson

end Record

end HttpExchange.Xml
