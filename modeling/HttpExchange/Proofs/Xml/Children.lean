import HttpExchange.Proofs.Xml.Record

/-!
# Elements in the values of documents

The value of a document holds all of its elements. The children of an element
make up one entry each, in document order. A child is found under its name when no
sibling shares the name, and when it has no children itself or no siblings; every
other one is found by its number. As long as no name reads as a number, no entry
takes the place of another, at no depth, and what is written of the value is the
tree again.

## Main definitions

* `childElements` — the elements among some nodes.
* `Mirrors` — the values that hold every element of a tree at its place.
* `writtenNode` — a tree as it is written.

## Main results

* `Record.isDistinct_ofElement` — no element takes the place of another.
* `value_holds_tree` — the value of a tree holds the tree and is written as the tree.
-/

namespace HttpExchange.Xml

/-! ## Trees -/

/-- The elements among some nodes, in order. -/
def childElements (nodes : List Node) : List (Tag × List Node) :=
  nodes.filterMap fun
    | .text _ => none
    | .element tag nodes => some (tag, nodes)

mutual

/-- The names of an element and of those inside of it. -/
def Node.names : Node → List Text
  | .text _ => []
  | .element tag nodes => tag.qualified :: elementNames nodes

/-- The names of the elements among some nodes and of those inside of them. -/
def elementNames : List Node → List Text
  | [] => []
  | node :: rest => node.names ++ elementNames rest

end

theorem childElements_text (t : Text) (rest : List Node) :
    childElements (.text t :: rest) = childElements rest := rfl

theorem childElements_element (tag : Tag) (nodes rest : List Node) :
    childElements (.element tag nodes :: rest) = (tag, nodes) :: childElements rest := rfl

theorem sizeOf_lt_of_mem_childElements {nodes : List Node} {child : Tag × List Node}
    (h : child ∈ childElements nodes) : sizeOf child.2 < sizeOf nodes := by
  induction nodes with
  | nil => cases h
  | cons node rest ih =>
      cases node with
      | text t =>
          have hrest := ih h
          simp only [List.cons.sizeOf_spec]
          omega
      | element tag inner =>
          simp only [List.cons.sizeOf_spec, Node.element.sizeOf_spec]
          rcases List.mem_cons.mp h with rfl | h
          · dsimp only
            omega
          · have hrest := ih h
            omega

/-- The names of a child and of what is inside of it are among the names of the tree. -/
theorem mem_elementNames {nodes : List Node} {child : Tag × List Node}
    (h : child ∈ childElements nodes) {name : Text}
    (hname : name ∈ child.1.qualified :: elementNames child.2) : name ∈ elementNames nodes := by
  induction nodes with
  | nil => cases h
  | cons node rest ih =>
      cases node with
      | text t => exact ih h
      | element tag inner =>
          rcases List.mem_cons.mp h with rfl | h
          · exact List.mem_append_left _ hname
          · exact List.mem_append_right _ (ih h)

/-- Whether a child is found under its name: no sibling shares it, and the child has no children or
no siblings. -/
def IsNamed (children : List (Tag × List Node)) (child : Tag × List Node) : Prop :=
  (children.map (·.1.qualified)).count child.1.qualified = 1 ∧
    (childElements child.2 = [] ∨ children.length = 1)

instance (children : List (Tag × List Node)) (child : Tag × List Node) :
    Decidable (IsNamed children child) :=
  inferInstanceAs (Decidable (_ ∧ _))

/-- What the child at an index is found under: its name, or the number of those before it that are
not found under theirs. -/
def entryName (children : List (Tag × List Node)) (i : Nat) (child : Tag × List Node) : Text :=
  if IsNamed children child then child.1.qualified
  else Numeral.ofNat ((children.take i).countP fun other => ¬ IsNamed children other)

/-- The text of an element as a value; it is null when there is none but blanks. -/
def textJson (nodes : List Node) : Json :=
  let t := Text.trim (nodes.flatMap Record.textOf)
  if t = [] then .null else .str t

/-- The value of an element, given what it says of its text and its children. -/
def elementJson (tag : Tag) (value : Json) (hasChildren : Bool) (children : Json) : Json :=
  .obj [
    ("name", .str tag.name.name),
    ("value", value),
    ("attributes", .obj ((Record.attributesOf tag).mapValues Json.str)),
    ("has_children", .bool hasChildren),
    ("children", children)]

/-- The values that hold every element of a tree at its place. An element with child elements has
one entry for each of them, in order and under distinct names, and the entries are a sequence
exactly when no child is found under its name. -/
inductive Mirrors : Tag → List Node → Json → Prop
  | leaf {tag : Tag} {nodes : List Node} (hnone : childElements nodes = []) :
      Mirrors tag nodes (elementJson tag (textJson nodes) false (.arr []))
  | branch {tag : Tag} {nodes : List Node} {entries : Members} (hsome : childElements nodes ≠ [])
      (hlength : entries.length = (childElements nodes).length)
      (hdistinct : (Assoc.keys entries).Nodup)
      (hname : ∀ (i : Nat) (child : Tag × List Node) (entry : Text × Json),
        (childElements nodes)[i]? = some child → entries[i]? = some entry →
          entry.1 = entryName (childElements nodes) i child)
      (hvalue : ∀ (i : Nat) (child : Tag × List Node) (entry : Text × Json),
        (childElements nodes)[i]? = some child → entries[i]? = some entry →
          Mirrors child.1 child.2 entry.2) :
      Mirrors tag nodes (elementJson tag .null true
        (if ∃ child ∈ childElements nodes, IsNamed (childElements nodes) child then .obj entries
          else .arr (Assoc.values entries)))

mutual

/-- An element as it is written: its attributes, and the elements in it or else its text. A text
beside elements is not written. -/
def writtenNode : Node → Text
  | .text _ => []
  | .element tag nodes =>
    '<' :: tag.name.name ++ (Record.attributesOf tag).flatMap Record.writtenAttribute ++
      '>' :: (if (childElements nodes).isEmpty
        then escapeText (Text.trim (nodes.flatMap Record.textOf)) else writtenNodes nodes) ++
      "</".toList ++ tag.name.name ++ ['>']

/-- The elements among some nodes as they are written, one after the other. -/
def writtenNodes : List Node → Text
  | [] => []
  | node :: rest => writtenNode node ++ writtenNodes rest

end

namespace Record

/-! ## Records of trees -/

theorem elementsOf_eq (nodes : List Node) :
    elementsOf nodes =
      (childElements nodes).map fun child => (child.1.qualified, ofElement child.1 child.2) := by
  induction nodes with
  | nil => rw [elementsOf]; rfl
  | cons node rest ih =>
      cases node with
      | text t => rw [elementsOf, ih, childElements_text]
      | element tag nodes => rw [elementsOf, ih, childElements_element, List.map_cons]

theorem elementsOf_eq_nil_iff {nodes : List Node} :
    elementsOf nodes = [] ↔ childElements nodes = [] := by
  rw [elementsOf_eq, List.map_eq_nil_iff]

theorem nodup_attributesOf (tag : Tag) : (Assoc.keys (attributesOf tag)).Nodup :=
  Assoc.nodup_keys_ofList _

theorem hasChildren_ofElement (tag : Tag) (nodes : List Node) :
    (ofElement tag nodes).hasChildren = !(childElements nodes).isEmpty := by
  by_cases hnil : elementsOf nodes = []
  · rw [ofElement_of_nil tag hnil, elementsOf_eq_nil_iff.mp hnil]
    rfl
  · rw [ofElement_of_ne_nil tag hnil,
      List.isEmpty_eq_false_iff.mpr (mt elementsOf_eq_nil_iff.mpr hnil)]
    rfl

/-- A child has a place by number exactly when it is not found under its name. -/
theorem isPositional_iff {children : List (Tag × List Node)} {child : Tag × List Node}
    (hmem : child ∈ children) :
    isPositional (children.map (·.1.qualified)) (child.1.qualified, ofElement child.1 child.2) =
      true ↔ ¬ IsNamed children child := by
  have hcount : 0 < (children.map (·.1.qualified)).count child.1.qualified :=
    List.count_pos_iff.mpr (List.mem_map_of_mem hmem)
  have hlength : 0 < children.length := List.length_pos_of_mem hmem
  have hinner : (ofElement child.1 child.2).hasChildren = true ↔ childElements child.2 ≠ [] := by
    rw [hasChildren_ofElement, Bool.not_eq_true', List.isEmpty_eq_false_iff]
  simp only [isPositional, IsNamed, Bool.or_eq_true, Bool.and_eq_true, decide_eq_true_eq, hinner,
    List.length_map]
  by_cases hnone : childElements child.2 = []
  · simp only [hnone, ne_eq, not_true_eq_false, and_false, false_or, true_or, and_true]
    omega
  · simp only [hnone, ne_eq, not_false_eq_true, and_true, false_or]
    omega

/-- The names that the children of an element are found under. -/
theorem fst_place_elementsOf (nodes : List Node) :
    (place (elementsOf nodes)).map Prod.fst = (childElements nodes).map fun child =>
      if IsNamed (childElements nodes) child then some child.1.qualified else none := by
  rw [fst_place, elementsOf_eq, List.map_map, List.map_map]
  refine List.map_congr_left fun child hmem => ?_
  have hiff := isPositional_iff hmem
  simp only [Function.comp_def]
  by_cases hnamed : IsNamed (childElements nodes) child
  · rw [if_pos hnamed, if_neg (fun hplace => hiff.mp hplace hnamed)]
  · rw [if_neg hnamed, if_pos (hiff.mpr hnamed)]

theorem snd_place_elementsOf (nodes : List Node) :
    (place (elementsOf nodes)).map Prod.snd =
      (childElements nodes).map fun child => ofElement child.1 child.2 := by
  rw [place, elementsOf_eq, List.map_map, List.map_map]
  rfl

/-- **No element takes the place of another** as long as no name reads as a number. -/
theorem isDistinct_ofElement (tag : Tag) (nodes : List Node)
    (h : ∀ name ∈ elementNames nodes, Numeral.isDigits name = false) :
    (ofElement tag nodes).IsDistinct := by
  by_cases hnil : elementsOf nodes = []
  · rw [ofElement_of_nil tag hnil]
    exact .leaf (nodup_attributesOf tag)
  · rw [ofElement_of_ne_nil tag hnil]
    refine .branch (nodup_attributesOf tag) ?_ (nodup_keysFrom_place ?_) ?_
    · rwa [place, ne_eq, List.map_eq_nil_iff]
    · intro child hmem n heq
      rw [elementsOf_eq] at hmem
      obtain ⟨source, hsource, rfl⟩ := List.mem_map.mp hmem
      have hname : Numeral.isDigits source.1.qualified = false :=
        h _ (mem_elementNames hsource List.mem_cons_self)
      have hnumber : source.1.qualified = Numeral.ofNat n := heq
      rw [hnumber, Numeral.isDigits_ofNat] at hname
      cases hname
    · intro child hmem
      have hrecord : child.2 ∈ (place (elementsOf nodes)).map Prod.snd := List.mem_map_of_mem hmem
      rw [snd_place_elementsOf] at hrecord
      obtain ⟨source, hsource, heq⟩ := List.mem_map.mp hrecord
      have hless := sizeOf_lt_of_mem_childElements hsource
      exact heq ▸ isDistinct_ofElement source.1 source.2 fun name hname =>
        h name (mem_elementNames hsource (List.mem_cons_of_mem _ hname))
termination_by sizeOf nodes

/-! ## Values of trees -/

theorem toJson_eq_elementJson (tag : Tag) (value : Option Text) (hasChildren : Bool)
    (children : List (Option Text × Record)) :
    toJson (.mk tag.name.name value (attributesOf tag) hasChildren children) =
      elementJson tag ((value.map Json.str).getD .null) hasChildren
        (childrenJson (children.map Prod.fst) (childValues children)) := by
  rw [toJson, Assoc.ofList_mapValues (nodup_attributesOf tag), elementJson]

/-- What the child at an index is found under: its name, or the next number. -/
theorem getElem?_keysFrom (next : Nat) (names : List (Option Text)) (i : Nat) :
    (keysFrom next names)[i]? = names[i]?.map fun name =>
      name.getD (Numeral.ofNat (next + (names.take i).countP (·.isNone))) := by
  induction names generalizing next i with
  | nil => rfl
  | cons name names ih =>
      cases i with
      | zero => cases name <;> rfl
      | succ i =>
          cases name with
          | some name =>
              rw [keysFrom, List.getElem?_cons_succ, ih, List.getElem?_cons_succ,
                List.take_succ_cons, List.countP_cons_of_neg (by simp)]
          | none =>
              rw [keysFrom, List.getElem?_cons_succ, ih, List.getElem?_cons_succ,
                List.take_succ_cons, List.countP_cons_of_pos (by rfl), Nat.add_assoc,
                Nat.add_comm 1]

theorem childValues_eq (children : List (Option Text × Record)) :
    childValues children = children.map fun child => child.2.toJson := by
  induction children with
  | nil => rfl
  | cons child children ih => rw [childValues, ih, List.map_cons]

/-- The entries for the children of an element. -/
def entriesOf (nodes : List Node) : Members :=
  (keysFrom 0 ((place (elementsOf nodes)).map Prod.fst)).zip
    (childValues (place (elementsOf nodes)))

/-- There is one entry for each child element, in order. -/
theorem length_entriesOf (nodes : List Node) :
    (entriesOf nodes).length = (childElements nodes).length := by
  rw [entriesOf, List.length_zip, length_keysFrom_fst, Nat.min_self, length_childValues, place,
    List.length_map, elementsOf_eq, List.length_map]

theorem keys_entriesOf (nodes : List Node) :
    Assoc.keys (entriesOf nodes) = keysFrom 0 ((place (elementsOf nodes)).map Prod.fst) := by
  rw [Assoc.keys, entriesOf, List.map_fst_zip (Nat.le_of_eq (length_keysFrom_fst _))]

theorem values_entriesOf (nodes : List Node) :
    Assoc.values (entriesOf nodes) = childValues (place (elementsOf nodes)) := by
  rw [Assoc.values, entriesOf, List.map_snd_zip (Nat.le_of_eq (length_keysFrom_fst _).symm)]

theorem getElem?_keysFrom_place {nodes : List Node} {i : Nat} {child : Tag × List Node}
    (hchild : (childElements nodes)[i]? = some child) :
    (keysFrom 0 ((place (elementsOf nodes)).map Prod.fst))[i]? =
      some (entryName (childElements nodes) i child) := by
  have hcount : ∀ children : List (Tag × List Node),
      (children.map fun other => if IsNamed (childElements nodes) other
        then some other.1.qualified else none).countP (·.isNone) =
        children.countP fun other => ¬ IsNamed (childElements nodes) other := by
    intro children
    rw [List.countP_map]
    refine List.countP_congr fun other _ => ?_
    by_cases hother : IsNamed (childElements nodes) other <;> simp [hother]
  rw [getElem?_keysFrom, fst_place_elementsOf, List.getElem?_map, hchild, ← List.map_take, hcount,
    Nat.zero_add, entryName]
  by_cases hnamed : IsNamed (childElements nodes) child
  · simp only [Option.map_some, if_pos hnamed, Option.getD_some]
  · simp only [Option.map_some, if_neg hnamed, Option.getD_none]

theorem getElem?_childValues_place {nodes : List Node} {i : Nat} {child : Tag × List Node}
    (hchild : (childElements nodes)[i]? = some child) :
    (childValues (place (elementsOf nodes)))[i]? = some (ofElement child.1 child.2).toJson := by
  have hvalues : childValues (place (elementsOf nodes)) =
      ((place (elementsOf nodes)).map Prod.snd).map toJson := by
    rw [childValues_eq, List.map_map]
    rfl
  rw [hvalues, snd_place_elementsOf, List.map_map, List.getElem?_map, hchild]
  rfl

/-- The entry of a child is under the name it is found under and has its value. -/
theorem eq_of_getElem?_entriesOf {nodes : List Node} {i : Nat} {child : Tag × List Node}
    {entry : Text × Json} (hchild : (childElements nodes)[i]? = some child)
    (hentry : (entriesOf nodes)[i]? = some entry) :
    entry = (entryName (childElements nodes) i child, (ofElement child.1 child.2).toJson) := by
  obtain ⟨hname, hvalue⟩ := List.getElem?_zip_eq_some.mp hentry
  rw [getElem?_keysFrom_place hchild] at hname
  rw [getElem?_childValues_place hchild] at hvalue
  exact Prod.ext (Option.some.inj hname).symm (Option.some.inj hvalue).symm

/-- The children of an element are a sequence when none is found under its name. -/
theorem childrenJson_place {nodes : List Node}
    (hdistinct : (keysFrom 0 ((place (elementsOf nodes)).map Prod.fst)).Nodup) :
    childrenJson ((place (elementsOf nodes)).map Prod.fst)
        (childValues (place (elementsOf nodes))) =
      if ∃ child ∈ childElements nodes, IsNamed (childElements nodes) child
      then .obj (entriesOf nodes) else .arr (Assoc.values (entriesOf nodes)) := by
  have hall : ((place (elementsOf nodes)).map Prod.fst).all (·.isNone) = true ↔
      ¬ ∃ child ∈ childElements nodes, IsNamed (childElements nodes) child := by
    rw [fst_place_elementsOf, List.all_map, List.all_eq_true]
    constructor
    · rintro hnone ⟨child, hmem, hnamed⟩
      have hchild := hnone child hmem
      rw [Function.comp_apply, if_pos hnamed] at hchild
      cases hchild
    · intro hnone child hmem
      rw [Function.comp_apply, if_neg fun hnamed => hnone ⟨child, hmem, hnamed⟩]
      rfl
  rw [childrenJson_eq hdistinct, values_entriesOf]
  by_cases hsome : ∃ child ∈ childElements nodes, IsNamed (childElements nodes) child
  · rw [if_pos hsome, if_neg (fun hnone => hall.mp hnone hsome)]
    rfl
  · rw [if_neg hsome, if_pos (hall.mpr hsome)]

theorem value_valueOf (nodes : List Node) :
    ((valueOf nodes).map Json.str).getD .null = textJson nodes := by
  unfold valueOf textJson
  dsimp only
  by_cases hnil : Text.trim (nodes.flatMap textOf) = []
  · rw [if_pos hnil, if_pos (List.isEmpty_iff.mpr hnil)]
    rfl
  · rw [if_neg hnil, if_neg (mt List.isEmpty_iff.mp hnil)]
    rfl

/-- **Every element stands at its place in the value** as long as no name reads as a number. -/
theorem mirrors_ofElement (tag : Tag) (nodes : List Node)
    (h : ∀ name ∈ elementNames nodes, Numeral.isDigits name = false) :
    Mirrors tag nodes (ofElement tag nodes).toJson := by
  by_cases hnil : elementsOf nodes = []
  · rw [ofElement_of_nil tag hnil, toJson_eq_elementJson, value_valueOf]
    exact .leaf (elementsOf_eq_nil_iff.mp hnil)
  · have hrecord := isDistinct_ofElement tag nodes h
    rw [ofElement_of_ne_nil tag hnil] at hrecord ⊢
    cases hrecord with
    | branch _ _ hdistinct _ =>
        rw [toJson_eq_elementJson, childrenJson_place hdistinct]
        refine .branch (mt elementsOf_eq_nil_iff.mpr hnil) (length_entriesOf nodes)
          (keys_entriesOf nodes ▸ hdistinct) (fun i child entry hchild hentry => ?_)
          fun i child entry hchild hentry => ?_
        · rw [eq_of_getElem?_entriesOf hchild hentry]
        · have hmem := List.mem_of_getElem? hchild
          have hless := sizeOf_lt_of_mem_childElements hmem
          rw [eq_of_getElem?_entriesOf hchild hentry]
          exact mirrors_ofElement child.1 child.2 fun name hname =>
            h name (mem_elementNames hmem (List.mem_cons_of_mem _ hname))
termination_by sizeOf nodes

/-! ## Writing -/

theorem escapeText_valueOf (nodes : List Node) :
    escapeText ((valueOf nodes).getD []) = escapeText (Text.trim (nodes.flatMap textOf)) := by
  unfold valueOf
  dsimp only
  split
  · next hnil => rw [List.isEmpty_iff.mp hnil, Option.getD_none]
  · rfl

theorem writtenAll_eq (children : List (Option Text × Record)) :
    writtenAll children = (children.map Prod.snd).flatMap written := by
  induction children with
  | nil => rfl
  | cons child children ih => rw [writtenAll, ih, List.map_cons, List.flatMap_cons]

theorem writtenNodes_eq (nodes : List Node) :
    writtenNodes nodes = (childElements nodes).flatMap fun child =>
      writtenNode (.element child.1 child.2) := by
  induction nodes with
  | nil => rfl
  | cons node rest ih =>
      cases node with
      | text t => exact ih
      | element tag nodes => rw [writtenNodes, ih, childElements_element, List.flatMap_cons]

/-- **The record of a tree is written as the tree.** -/
theorem written_ofElement (tag : Tag) (nodes : List Node) :
    (ofElement tag nodes).written = writtenNode (.element tag nodes) := by
  rw [writtenNode]
  by_cases hnil : elementsOf nodes = []
  · rw [ofElement_of_nil tag hnil, written, writtenAll, elementsOf_eq_nil_iff.mp hnil,
      List.append_nil, List.isEmpty_nil, if_pos rfl, escapeText_valueOf]
  · have hinside : ∀ child ∈ childElements nodes,
        (ofElement child.1 child.2).written = writtenNode (.element child.1 child.2) := by
      intro child hmem
      have hless := sizeOf_lt_of_mem_childElements hmem
      exact written_ofElement child.1 child.2
    have hall : writtenAll (place (elementsOf nodes)) = writtenNodes nodes := by
      rw [writtenAll_eq, snd_place_elementsOf, List.flatMap_map, writtenNodes_eq]
      exact congrArg List.flatten (List.map_congr_left hinside)
    rw [ofElement_of_ne_nil tag hnil, written, hall,
      if_neg (mt (elementsOf_eq_nil_iff.mpr ∘ List.isEmpty_iff.mp) hnil)]
    rfl
termination_by sizeOf nodes

end Record

/-! ## Whole trees -/

/-- **The value of a tree holds the tree and is written as the tree.** When no element inside of an
element has a name that reads as a number, every one of them stands at its place in the value, and
each is written once, in document order and inside of the same elements. -/
theorem value_holds_tree (tag : Tag) (nodes : List Node)
    (h : ∀ name ∈ elementNames nodes, Numeral.isDigits name = false) :
    Mirrors tag nodes (Record.ofElement tag nodes).toJson ∧
      write? (Record.ofElement tag nodes).toJson = some (writtenNode (.element tag nodes)) := by
  refine ⟨Record.mirrors_ofElement tag nodes h, ?_⟩
  rw [(Record.isDistinct_ofElement tag nodes h).write?_toJson, Record.written_ofElement]

/-- Two items of one name and one with an item inside have numbers, beside one that has its name. -/
theorem order_value_holds_tree :
    let scope : Scope := [⟨some "x", "u"⟩]
    let element (uri : Option Text) (name : Text) (attributes : List Attribute)
      (nodes : List Node) : Node := .element ⟨⟨uri, name⟩, scope, attributes⟩ nodes
    let tag : Tag := ⟨⟨none, "r"⟩, scope, []⟩
    let nodes : List Node := [element (some "u") "a" [] [element none "i" [] []], .text " - ",
      element (some "u") "b" [] [.text " 1 < 2\n"], element none "c" [] [.text "3"],
      element none "c" [⟨⟨some "u", "k"⟩, " \" "⟩] [.text " "]]
    let s : Text := "<r><a><i></i></a><b>1 &lt; 2</b><c>3</c><c x:k=\"&quot;\"></c></r>"
    (∀ name ∈ elementNames nodes, Numeral.isDigits name = false) ∧
      Mirrors tag nodes (Record.ofElement tag nodes).toJson ∧
      (childElements nodes).zipIdx.map (fun p => entryName (childElements nodes) p.2 p.1) =
        ["0".toList, "x:b".toList, "1".toList, "2".toList] ∧
      write? (Record.ofElement tag nodes).toJson = some s := by
  intro scope element tag nodes s
  have hnames : ∀ name ∈ elementNames nodes, Numeral.isDigits name = false := by decide +kernel
  obtain ⟨hmirrors, hwrite⟩ := value_holds_tree tag nodes hnames
  have hwritten : writtenNode (.element tag nodes) = s := by decide +kernel
  exact ⟨hnames, hmirrors, by decide +kernel, hwritten ▸ hwrite⟩

end HttpExchange.Xml
