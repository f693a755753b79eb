import HttpExchange.Proofs.Xml.Sound
import HttpExchange.Proofs.Xml.Tree
import Mathlib.Data.List.Forall2

/-!
# Records that are read again

What is written of a record makes up one element again, whatever the names of its
attributes are taken for, as long as it can be read at all. An attribute that is
taken for a declaration is missing among the attributes, so when they are all
there again, nothing was declared, and a qualifier was one that needs no
declaration. A record that is read again is plain, then, and conversely.

## Main results

* `exists_of_foldlM_events` — the events of a record make up one element, which is
  the record only if the record is plain.
* `read?_written_iff` — a record is read again exactly if it is plain.
-/

namespace HttpExchange.Xml

open HttpExchange.Xml.Tree

namespace Tree

/-! ## Attributes -/

/-- An attribute is kept, or it declares something. -/
theorem takeAttribute?_cases {s s' : State} {q : QName} {value : Text}
    (h : takeAttribute? s q value = some s') :
    (q.name ≠ "xmlns".toList ∧ s' = { s with attributes := s.attributes ++ [(q, value)] }) ∨
      ∃ declared, s' = { s with declared } := by
  rw [takeAttribute?] at h
  split at h
  · split at h
    · cases h
    · split at h
      · exact .inr ⟨s.declared, (Option.some.inj h).symm⟩
      · exact .inr ⟨_, (Option.some.inj h).symm⟩
  · split at h
    · split at h
      · cases h
      · exact .inr ⟨_, (Option.some.inj h).symm⟩
    · next hname => exact .inl ⟨hname, (Option.some.inj h).symm⟩

/-- All attributes are kept, or some are missing. -/
theorem foldlM_attributes_cases {attributes : Assoc Text} {s s' : State}
    (h : (attributes.map Record.attributeEvent).foldlM (step? [] maxNesting false) s = some s') :
    ((∀ a ∈ attributes, (attributeQName a.1).name ≠ "xmlns".toList) ∧ s' = s.tagged attributes) ∨
      ∃ declared pairs, s' = { s with declared, attributes := pairs } ∧
        pairs.length < s.attributes.length + attributes.length := by
  induction attributes generalizing s with
  | nil =>
      refine .inl ⟨List.forall_mem_nil _, (Option.some.inj h).symm.trans ?_⟩
      rw [State.tagged, attributePairs, List.map_nil, List.append_nil]
  | cons a attributes ih =>
      rw [List.map_cons, List.foldlM_cons, step?_attributeEvent, Option.bind_eq_bind,
        Option.bind_eq_some_iff] at h
      obtain ⟨s₁, hfirst, hrest⟩ := h
      rcases takeAttribute?_cases hfirst with ⟨hname, rfl⟩ | ⟨declared, rfl⟩
      · rcases ih hrest with ⟨hnames, rfl⟩ | ⟨declared, pairs, rfl, hless⟩
        · refine .inl ⟨List.forall_mem_cons.mpr ⟨hname, hnames⟩, ?_⟩
          simp only [State.tagged, attributePairs, List.map_cons, List.append_assoc,
            List.singleton_append]
        · refine .inr ⟨declared, pairs, rfl, ?_⟩
          simp only [List.length_append, List.length_cons, List.length_nil] at hless ⊢
          omega
      · rcases ih hrest with ⟨hnames, rfl⟩ | ⟨declared', pairs, rfl, hless⟩
        · refine .inr ⟨declared, _, rfl, ?_⟩
          simp only [attributePairs, List.length_append, List.length_map, List.length_cons]
          omega
        · refine .inr ⟨declared', pairs, rfl, ?_⟩
          simp only [List.length_cons] at hless ⊢
          omega

/-- Attributes that are added have the names that theirs stand for. -/
theorem of_foldlM_addAttribute? {scope : Scope} {pairs : List (QName × Text)}
    {before after : List Attribute} (h : pairs.foldlM (addAttribute? scope) before = some after) :
    ∃ new, after = before ++ new ∧
      List.Forall₂ (fun a b => attributeName? scope a.1 = some b.name ∧ b.value = a.2)
        pairs new := by
  induction pairs generalizing before with
  | nil => exact ⟨[], by rw [List.append_nil]; exact (Option.some.inj h).symm, .nil⟩
  | cons a pairs ih =>
      rw [List.foldlM_cons, Option.bind_eq_bind, Option.bind_eq_some_iff] at h
      obtain ⟨next, hadd, hrest⟩ := h
      obtain ⟨name, hname, hadd⟩ := Option.bind_eq_some_iff.mp hadd
      obtain ⟨-, heq⟩ := Option.ite_none_left_eq_some.mp hadd
      obtain rfl := Option.some.inj heq
      obtain ⟨new, rfl, hnew⟩ := ih hrest
      exact ⟨⟨name, a.2⟩ :: new, by rw [List.append_assoc]; rfl, .cons ⟨hname, rfl⟩ hnew⟩

theorem takeTagEnd?_cases {s s' : State} {q : QName} (hcurrent : s.current = some q)
    (h : takeTagEnd? s false = some s') : ∃ name attributes, s.resolved? = some attributes ∧
      elementName? s.scope q = some name ∧
        s' = { s.clear with stack := ⟨q, ⟨name, s.scope, attributes⟩, []⟩ :: s.stack } := by
  simp only [takeTagEnd?, hcurrent, Option.bind_eq_bind, Option.bind_some,
    Option.bind_eq_some_iff, Bool.false_eq_true, if_false, Option.some.injEq] at h
  obtain ⟨attributes, hresolved, name, hname, rfl⟩ := h
  exact ⟨name, attributes, hresolved, hname, rfl⟩

end Tree

theorem forall_of_forall₂_map {α β : Type} {R : α → β → Prop} {f : β → α} {as : List α}
    {bs : List β} (h : List.Forall₂ R as bs) (heq : bs.map f = as) :
    ∀ a ∈ as, ∃ b, R a b ∧ f b = a := by
  induction h with
  | nil => exact List.forall_mem_nil _
  | cons hfirst _ ih =>
      obtain ⟨heq, hrest⟩ := List.cons.inj heq
      exact List.forall_mem_cons.mpr ⟨⟨_, hfirst, heq⟩, ih hrest⟩

/-- A name that is found again where nothing is declared is plain. -/
theorem isPlainName_of_qualified {name : Text} {expanded : ExpandedName}
    (hchars : ∀ c ∈ name, isNameChar c = true)
    (hread : QName.ofText? name = some (attributeQName name))
    (hname : (attributeQName name).name ≠ "xmlns".toList)
    (hexpanded : attributeName? [] (attributeQName name) = some expanded)
    (hqualified : Text.trim (expanded.qualified []) = name) : IsPlainName name := by
  have hlocal := (QName.isSound_of_ofText? hchars hread).name
  rw [attributeName?] at hexpanded
  split at hexpanded
  · next hqualifier =>
      rcases QName.eq_of_ofText? hread with ⟨-, hnone⟩ | hshape
      · rw [hnone] at hqualifier
        cases hqualifier
      · rw [hshape, hqualifier]
        exact .xml hlocal hname
  · split at hexpanded
    · next hempty =>
        -- a name behind a lone colon would have to be as long as itself with the colon
        have hkept : Text.trim (attributeQName name).name = name := by
          rw [← Option.some.inj hexpanded] at hqualified
          exact hqualified
        rcases QName.eq_of_ofText? hread with ⟨hshape, -⟩ | hshape
        · rw [hshape]
          exact .plain hlocal hname
        · have hlonger := congrArg List.length hshape
          have hshorter := (Text.trim_sublist (attributeQName name).name).length_le
          rw [List.length_append, List.length_cons] at hlonger
          rw [hkept] at hshorter
          omega
    · cases hexpanded

/-- **Attributes that are all there again are plain.** -/
theorem isPlain_of_attributesOf {attributes : Assoc Text} (h : Record.AreAttributes attributes)
    (hreadable : ∀ a ∈ attributes, Record.IsReadableAttribute a)
    (hnames : ∀ a ∈ attributes, (attributeQName a.1).name ≠ "xmlns".toList) {name : ExpandedName}
    {read : List Attribute}
    (hresolved : (attributePairs attributes).foldlM (addAttribute? []) [] = some read)
    (heq : Record.attributesOf ⟨name, [], read⟩ = attributes) :
    ∀ a ∈ attributes, IsPlainName a.1 ∧ IsPlainValue a.2 := by
  obtain ⟨new, hnew, hpairs⟩ := of_foldlM_addAttribute? hresolved
  obtain rfl : read = new := hnew
  rw [attributePairs, List.forall₂_map_left_iff] at hpairs
  have hkept : (read.map fun b => (Text.trim (b.name.qualified []), Text.trim b.value)) =
      attributes := by
    refine (Assoc.ofList_of_length_le ?_).symm.trans heq
    change _ ≤ (Record.attributesOf ⟨name, [], read⟩).length
    rw [heq, List.length_map, ← hpairs.length_eq]
  intro a ha
  obtain ⟨b, ⟨hexpanded, hvalue⟩, hb⟩ := forall_of_forall₂_map hpairs hkept a ha
  obtain ⟨hread, hchars⟩ := hreadable a ha
  have hqualified : Text.trim (b.name.qualified []) = a.1 := congrArg Prod.fst hb
  have hreread : Text.trim (rereadValue a.2) = a.2 :=
    (congrArg Text.trim hvalue).symm.trans (congrArg Prod.snd hb)
  refine ⟨isPlainName_of_qualified (h.chars a ha) hread (hnames a ha) hexpanded hqualified,
    fun c hc => ⟨hchars c hc, ?_⟩⟩
  rw [← hreread] at hc
  exact not_mem_rereadValue (Text.trim_subset hc)

/-! ## Elements -/

namespace Record

theorem attributes_ofElement (tag : Tag) (nodes : List Node) :
    (ofElement tag nodes).attributes = attributesOf tag := by
  by_cases hnil : elementsOf nodes = []
  · rw [ofElement_of_nil tag hnil]
    rfl
  · rw [ofElement_of_ne_nil tag hnil]
    rfl

theorem children_ofElement (tag : Tag) (nodes : List Node) :
    (ofElement tag nodes).children = place (elementsOf nodes) := by
  by_cases hnil : elementsOf nodes = []
  · rw [ofElement_of_nil tag hnil, hnil]
    rfl
  · rw [ofElement_of_ne_nil tag hnil]
    rfl

theorem elementsOf_map (parts : List (Tag × List Node)) :
    elementsOf (parts.map fun p => .element p.1 p.2) =
      parts.map fun p => (p.1.qualified, ofElement p.1 p.2) := by
  induction parts with
  | nil => rw [List.map_nil, List.map_nil, elementsOf]
  | cons p parts ih => rw [List.map_cons, List.map_cons, elementsOf, ih]

theorem snd_place (children : List (Text × Record)) :
    (place children).map Prod.snd = children.map Prod.snd := by
  rw [place, List.map_map]
  rfl

/-- Where nothing is declared, an element with the record is one only if the record is plain, and
then the element is found under the name of the record. -/
def IsExact (scope : Scope) (r : Record) (tag : Tag) (nodes : List Node) : Prop :=
  scope = [] → ofElement tag nodes = r → r.IsPlain ∧ tag.qualified = r.name

theorem of_forall₂_isExact {children : List (Option Text × Record)}
    {parts : List (Tag × List Node)}
    (h : List.Forall₂ (fun child p => IsExact [] child.2 p.1 p.2) children parts)
    (heq : parts.map (fun p => ofElement p.1 p.2) = children.map Prod.snd) :
    (∀ child ∈ children, child.2.IsPlain) ∧
      parts.map (fun p => (p.1.qualified, ofElement p.1 p.2)) =
        children.map fun child => (child.2.name, child.2) := by
  induction h with
  | nil => exact ⟨List.forall_mem_nil _, rfl⟩
  | @cons child p children parts hchild _ ih =>
      obtain ⟨hrecord, hrecords⟩ := List.cons.inj heq
      obtain ⟨hplain, hname⟩ := hchild rfl hrecord
      obtain ⟨hplains, hnames⟩ := ih hrecords
      refine ⟨List.forall_mem_cons.mpr ⟨hplain, hplains⟩, ?_⟩
      have hrecord : ofElement p.1 p.2 = child.2 := hrecord
      rw [List.map_cons, List.map_cons, hnames, hname, hrecord]

end Record

namespace Tree

theorem exists_of_foldlM_eventsOfAll {P : Scope → Record → Tag → List Node → Prop}
    {children : List (Option Text × Record)}
    (h : ∀ child ∈ children, ∀ s s' : State, s.IsClear → s.current = some ⟨[], child.2.name⟩ →
      child.2.events.foldlM (step? [] maxNesting false) s = some s' → ∃ tag nodes q,
        s' = { s.add [.element tag nodes] with current := some q } ∧ P s.scope child.2 tag nodes)
    {s s' : State} (hs : s.IsClear) {q : QName} (hcurrent : s.current = some q)
    (hfold : (Record.eventsOfAll children).foldlM (step? [] maxNesting false) s = some s') :
    ∃ (parts : List (Tag × List Node)) (q : QName),
      s' = { s.add (parts.map fun p => .element p.1 p.2) with current := some q } ∧
        List.Forall₂ (fun child p => P s.scope child.2 p.1 p.2) children parts := by
  induction children generalizing s q with
  | nil =>
      refine ⟨[], q, (Option.some.inj hfold).symm.trans ?_, .nil⟩
      rw [List.map_nil, State.add_nil, ← hcurrent]
  | cons child children ih =>
      obtain ⟨hchild, hrest⟩ := List.forall_mem_cons.mp h
      rw [Record.eventsOfAll, List.foldlM_cons, step?_start, Option.bind_eq_bind, Option.bind_some,
        List.foldlM_append, Option.bind_eq_bind, Option.bind_eq_some_iff] at hfold
      obtain ⟨s₁, hfirst, hothers⟩ := hfold
      obtain ⟨tag, nodes, q₁, rfl, hP⟩ := hchild _ _ (hs.withCurrent _) rfl hfirst
      rw [State.add_withCurrent] at hothers
      obtain ⟨parts, q₂, rfl, hparts⟩ :=
        ih hrest ((hs.add [.element tag nodes]).withCurrent (some q₁)) rfl hothers
      refine ⟨(tag, nodes) :: parts, q₂, ?_, .cons hP ?_⟩
      · rw [State.add_withCurrent, ← State.add_append]
        rfl
      · have hscope :
            State.scope { s.add [.element tag nodes] with current := some q₁ } = s.scope :=
          State.scope_add s _
        rwa [hscope] at hparts

/-- When all attributes are there again, none of them was taken for a declaration. -/
theorem tagged_of_attributesOf {attributes : Assoc Text} {s s' : State} (hs : s.IsClear)
    (hfold : (attributes.map Record.attributeEvent).foldlM (step? [] maxNesting false) s = some s')
    {name : ExpandedName} {scope : Scope} {read : List Attribute}
    (hresolved : s'.resolved? = some read)
    (heq : Record.attributesOf ⟨name, scope, read⟩ = attributes) :
    (∀ a ∈ attributes, (attributeQName a.1).name ≠ "xmlns".toList) ∧ s' = s.tagged attributes := by
  rcases foldlM_attributes_cases hfold with htagged | ⟨declared, pairs, rfl, hless⟩
  · exact htagged
  · obtain ⟨new, hnew, hpairs⟩ := of_foldlM_addAttribute? hresolved
    obtain rfl : read = new := hnew
    have hkept := Assoc.length_ofList_le (read.map fun a =>
      (Text.trim (a.name.qualified scope), Text.trim a.value))
    have hlength : attributes.length ≤ read.length := by
      rw [← heq]
      exact Nat.le_trans hkept (Nat.le_of_eq (List.length_map _))
    have hpairs : pairs.length = read.length := hpairs.length_eq
    rw [hs.attributes, List.length_nil] at hless
    omega

/-- What is built of the events of an element, when this is known of its children: the element has
the attributes that were found, the text, and an element for each child. -/
theorem exists_of_foldlM_element {P : Scope → Record → Tag → List Node → Prop} {name : Text}
    {value : Option Text} {attributes : Assoc Text} {hasChildren : Bool}
    {children : List (Option Text × Record)}
    (hchildren : ∀ child ∈ children, ∀ s s' : State, s.IsClear →
      s.current = some ⟨[], child.2.name⟩ →
      child.2.events.foldlM (step? [] maxNesting false) s = some s' → ∃ tag nodes q,
        s' = { s.add [.element tag nodes] with current := some q } ∧ P s.scope child.2 tag nodes)
    {s s' : State} (hs : s.IsClear) (hcurrent : s.current = some ⟨[], name⟩)
    (hfold : (Record.mk name value attributes hasChildren children).events.foldlM
      (step? [] maxNesting false) s = some s') :
    ∃ tagged read expanded, ∃ (parts : List (Tag × List Node)) (q : QName),
      (attributes.map Record.attributeEvent).foldlM (step? [] maxNesting false) s = some tagged ∧
      tagged.resolved? = some read ∧ elementName? tagged.scope ⟨[], name⟩ = some expanded ∧
      List.Forall₂ (fun child p => P tagged.scope child.2 p.1 p.2) children parts ∧
      s' = { s.add [.element ⟨expanded, tagged.scope, read⟩ (Record.textNodes value ++
        parts.map fun p => .element p.1 p.2)] with current := some q } := by
  simp only [Record.events, List.foldlM_append, List.foldlM_cons, Option.bind_eq_bind,
    Option.bind_eq_some_iff, foldlM_textEvents] at hfold
  obtain ⟨tagged, hattributes, s₂, hend, s₃, htext, s₄, hinside, s₅, hclose, hlast⟩ := hfold
  obtain rfl := Option.some.inj htext
  obtain rfl : s₅ = s' := Option.some.inj hlast
  -- the attributes leave all but the tag as it was
  obtain ⟨declared, pairs, htagged⟩ :
      ∃ declared pairs, tagged = { s with declared, attributes := pairs } := by
    rcases foldlM_attributes_cases hattributes with ⟨-, rfl⟩ | ⟨declared, pairs, rfl, -⟩
    · exact ⟨_, _, rfl⟩
    · exact ⟨_, _, rfl⟩
  have hname : tagged.current = some ⟨[], name⟩ := by rw [htagged]; exact hcurrent
  obtain ⟨expanded, read, hresolved, hexpanded, rfl⟩ := takeTagEnd?_cases hname hend
  obtain ⟨tag, htag⟩ : ∃ tag : Tag, tag = ⟨expanded, tagged.scope, read⟩ := ⟨_, rfl⟩
  have hopened : { tagged.clear with stack := ⟨⟨[], name⟩, tag, []⟩ :: tagged.stack } =
      s.opened name tag := by
    rw [htagged, State.opened, State.clear]
    simp only [hs.declared, hs.attributes]
  rw [← htag, hopened] at hinside
  obtain ⟨parts, q, rfl, hparts⟩ := exists_of_foldlM_eventsOfAll hchildren
    ((hs.opened name tag).add (Record.textNodes value))
    ((State.current_add _ _).trans hcurrent) hinside
  rw [State.scope_add, hs.scope_opened, htag] at hparts
  rw [← State.add_append, step?_close hs, htag] at hclose
  exact ⟨tagged, read, expanded, parts, q, hattributes, hresolved, hexpanded, hparts,
    (Option.some.inj hclose).symm⟩

/-- The text of an element without children is read as it is if it is plain. -/
theorem isChain_of_value_ofElement {tag : Tag} {t : Text}
    (h : (Record.ofElement tag (Record.textNodes (some t))).value = some t) : t.IsChain Stays := by
  have hnil : Record.elementsOf (Record.textNodes (some t)) = [] := by
    rw [← List.append_nil (Record.textNodes _), Record.elementsOf_textNodes, Record.elementsOf]
  rw [Record.ofElement_of_nil tag hnil] at h
  change Record.valueOf (Record.textNodes (some t)) = some t at h
  rw [Record.valueOf_textNodes, Option.ite_none_left_eq_some] at h
  exact isChain_of_rereadRun (Option.some.inj h.2)

/-- An element that was built of the events of a record is the record only if the record is plain,
when this is known of the children. -/
theorem isExact_of_foldlM_attributes {name : Text} {value : Option Text} {attributes : Assoc Text}
    {hasChildren : Bool} {children : List (Option Text × Record)}
    (hsound : (Record.mk name value attributes hasChildren children).IsSound)
    (hreadable : ∀ a ∈ attributes, Record.IsReadableAttribute a) {s tagged : State}
    (hs : s.IsClear)
    (hfold : (attributes.map Record.attributeEvent).foldlM (step? [] maxNesting false) s =
      some tagged)
    {read : List Attribute} (hresolved : tagged.resolved? = some read) {expanded : ExpandedName}
    (hexpanded : elementName? tagged.scope ⟨[], name⟩ = some expanded)
    {parts : List (Tag × List Node)}
    (hparts : List.Forall₂ (fun child p => Record.IsExact tagged.scope child.2 p.1 p.2)
      children parts) :
    Record.IsExact s.scope (.mk name value attributes hasChildren children)
      ⟨expanded, tagged.scope, read⟩
      (Record.textNodes value ++ parts.map fun p => .element p.1 p.2) := by
  intro hscope heq
  -- an element with the record has all of its attributes, so that nothing was declared
  have hsame : Record.attributesOf ⟨expanded, tagged.scope, read⟩ = attributes :=
    (Record.attributes_ofElement _ _).symm.trans (congrArg Record.attributes heq)
  obtain ⟨hnames, htagged⟩ := tagged_of_attributesOf hs hfold hresolved hsame
  have hundeclared : tagged.scope = [] := htagged ▸ hscope
  rw [hundeclared] at hsame hexpanded hparts heq
  obtain rfl : ⟨none, name⟩ = expanded := Option.some.inj hexpanded
  rw [State.resolved?, hundeclared, htagged, State.tagged, hs.attributes] at hresolved
  -- the children are plain, and stand where their local names put them
  have hplace := (Record.children_ofElement _ _).symm.trans (congrArg Record.children heq)
  rw [Record.elementsOf_textNodes, Record.elementsOf_map] at hplace
  have hrecords := congrArg (List.map Prod.snd) hplace
  rw [Record.snd_place, List.map_map] at hrecords
  obtain ⟨hplains, hnamed⟩ := Record.of_forall₂_isExact hparts hrecords
  rw [hnamed] at hplace
  have hvalue : ∀ t ∈ value, t.IsChain Stays := by
    intro t ht
    obtain rfl : value = some t := ht
    cases hsound with
    | leaf =>
        cases hparts
        rw [List.map_nil, List.append_nil] at heq
        exact isChain_of_value_ofElement (congrArg Record.value heq)
  have hattributes : Record.AreAttributes attributes := by
    cases hsound with
    | leaf _ _ hattributes => exact hattributes
    | branch _ hattributes => exact hattributes
  rw [hundeclared]
  exact ⟨.mk (isPlain_of_attributesOf hattributes hreadable hnames hresolved hsame) hvalue
    (congrArg (List.map Prod.fst) hplace).symm hplains, rfl⟩

/-- **The events of a record make up one element**, which is the record only if the record is
plain. -/
theorem exists_of_foldlM_events {r : Record} (h : r.IsSound) (hreadable : r.IsReadable)
    {s s' : State} (hs : s.IsClear) (hcurrent : s.current = some ⟨[], r.name⟩)
    (hfold : r.events.foldlM (step? [] maxNesting false) s = some s') :
    ∃ tag nodes q, s' = { s.add [.element tag nodes] with current := some q } ∧
      Record.IsExact s.scope r tag nodes := by
  induction h generalizing s s' with
  | leaf hname hvalue hattributes =>
      cases hreadable with
      | mk hreadable =>
          obtain ⟨tagged, read, expanded, parts, q, htagged, hresolved, hexpanded, hparts, rfl⟩ :=
            exists_of_foldlM_element (P := Record.IsExact) (List.forall_mem_nil _) hs hcurrent hfold
          exact ⟨_, _, q, rfl, isExact_of_foldlM_attributes (.leaf hname hvalue hattributes)
            hreadable hs htagged hresolved hexpanded hparts⟩
  | branch hname hattributes hne hkeys hdistinct hsound ih =>
      cases hreadable with
      | mk hreadable hchildren =>
          obtain ⟨tagged, read, expanded, parts, q, htagged, hresolved, hexpanded, hparts, rfl⟩ :=
            exists_of_foldlM_element (P := Record.IsExact)
              (fun child hmem s s' => ih child hmem (hchildren child hmem)) hs hcurrent hfold
          exact ⟨_, _, q, rfl, isExact_of_foldlM_attributes
            (.branch hname hattributes hne hkeys hdistinct hsound) hreadable hs htagged
            hresolved hexpanded hparts⟩

/-- **A record whose document has its element is plain.** -/
theorem isPlain_of_read?_written {r : Record} (h : r.IsSound) {tag : Tag} {nodes : List Node}
    (hread : Tree.read? r.written = some (tag, nodes)) (heq : Record.ofElement tag nodes = r) :
    r.IsPlain := by
  simp only [Tree.read?, Option.bind_eq_bind, Option.bind_eq_some_iff] at hread
  obtain ⟨⟨entities, es⟩, hdocument, s, hrun, hread⟩ := hread
  have hreadable := isReadable_of_ofDocument? h hdocument
  obtain ⟨rfl, rfl⟩ : [] = entities ∧ _ = es :=
    Prod.mk.inj (Option.some.inj ((ofDocument?_written h hreadable).symm.trans hdocument))
  have hempty : State.IsClear { State.empty with current := some ⟨[], r.name⟩ } := ⟨rfl, rfl⟩
  rw [run?, List.foldlM_cons, step?_start, Option.bind_eq_bind, Option.bind_some] at hrun
  obtain ⟨tag', nodes', q, rfl, hexact⟩ := exists_of_foldlM_events h hreadable hempty rfl hrun
  obtain ⟨rfl, rfl⟩ : tag' = tag ∧ nodes' = nodes :=
    Prod.mk.inj (Option.some.inj (Option.ite_none_right_eq_some.mp hread).2)
  exact (hexact rfl heq).1

end Tree

/-- **A record that was written is read again exactly if it is plain.** -/
theorem read?_written_iff {r : Record} (h : r.IsSound) :
    read? r.written = some r.toJson ↔ r.IsPlain := by
  refine ⟨fun hread => ?_, read?_written h⟩
  rw [read?_eq_document?, Option.map_eq_some_iff] at hread
  obtain ⟨r', hdocument, heq⟩ := hread
  obtain rfl := Record.toJson_injective (isSound_of_document? hdocument) h heq
  rw [document?, r'.trimStart_written, Option.map_eq_some_iff] at hdocument
  obtain ⟨⟨tag, nodes⟩, hread, heq⟩ := hdocument
  exact isPlain_of_read?_written h hread heq

end HttpExchange.Xml
