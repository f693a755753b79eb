import HttpExchange.Proofs.Xml.Plain
import HttpExchange.Xml.Record

/-!
# The tree of what is written

A record that was written has no references but the predefined ones, which stand
for single characters. A plain record has no namespaces either but that of the
qualifier `xml`. So its events make up an element with the names, the values and
the texts of the record.

## Main definitions

* `Record.node` — a record as an element of a document.

## Main results

* `readAll?_escapeText` — the pieces of a text that was escaped.
* `foldlM_events` — the events of a plain record make up its element.
* `read?_written` — the value of a plain record that was written.
-/

namespace HttpExchange.Xml

open HttpExchange.Xml.Tree

/-! ## References -/

/-- A reference is read where it was written. -/
theorem readAll?_reference {entities : Entities} {name : Text} (hname : ';' ∉ name) {piece : Piece}
    (h : Piece.ofReference? entities name = some piece) (rest : Text) :
    Piece.readAll? entities ('&' :: (name ++ ';' :: rest)) =
      (Piece.readAll? entities rest).map (piece :: ·) := by
  have hsplit := Text.splitFirst_append hname rest
  rw [Piece.readAll?]
  split
  · next hnone =>
      rw [hsplit] at hnone
      cases hnone
  · next name' rest' hsome =>
      obtain ⟨rfl, rfl⟩ := Prod.mk.inj (Option.some.inj (hsplit.symm.trans hsome))
      rw [h]
      cases Piece.readAll? entities rest <;> rfl

theorem readAll?_written {entities : Entities} {c : Char} (h : c ≠ '&') (rest : Text) :
    Piece.readAll? entities (c :: rest) =
      (Piece.readAll? entities rest).map (.written c :: ·) := by
  rw [Piece.readAll?]
  exact h

/-- A character that is escaped is written as a reference to it. -/
theorem exists_escape_eq {c : Char} (h : c ∈ escaped) : ∃ name : Text, ';' ∉ name ∧
    escape c = '&' :: (name ++ [';']) ∧ Piece.ofReference? [] name = some (.referred c) := by
  simp only [escaped, String.reduceToList, List.mem_cons, List.not_mem_nil, or_false] at h
  rcases h with rfl | rfl | rfl | rfl | rfl
  · exact ⟨"amp".toList, by decide, rfl, rfl⟩
  · exact ⟨"lt".toList, by decide, rfl, rfl⟩
  · exact ⟨"gt".toList, by decide, rfl, rfl⟩
  · exact ⟨"quot".toList, by decide, rfl, rfl⟩
  · exact ⟨"apos".toList, by decide, rfl, rfl⟩

/-- **The pieces of a text that was escaped** are its characters. -/
theorem readAll?_escapeText (t : Text) :
    Piece.readAll? [] (escapeText t) = some (t.map pieceOf) := by
  induction t with
  | nil => rw [escapeText, List.flatMap_nil, Piece.readAll?]; rfl
  | cons c t ih =>
      rw [escapeText, List.flatMap_cons, ← escapeText, List.map_cons, pieceOf]
      split
      · next hc =>
          obtain ⟨name, hname, hescape, hreference⟩ := exists_escape_eq hc
          rw [hescape, List.cons_append, List.append_assoc, List.singleton_append,
            readAll?_reference hname hreference, ih]
          rfl
      · next hc =>
          have hmarkup : c ≠ '&' := fun heq => hc (heq ▸ (by decide : '&' ∈ escaped))
          rw [escape_of_not_mem hc, List.singleton_append, readAll?_written hmarkup, ih]
          rfl

/-! ## Values and runs of text -/

theorem valueOf?_pieces (enter : Text → Nat → Option (Text × Nat)) (t acc : Text)
    (references : Nat) : valueOf? enter false (t.map pieceOf) acc references =
      some (acc ++ rereadValue t, references) := by
  induction t generalizing acc with
  | nil => rw [List.map_nil, valueOf?, rereadValue, List.append_nil]
  | cons c t ih =>
      rw [List.map_cons, pieceOf, rereadValue]
      split
      · rw [valueOf?, Bool.not_false, if_pos rfl, ih, List.append_assoc]
      · rw [valueOf?, ih, List.append_assoc]

/-- The value of an attribute that was written. -/
theorem valueText?_escapeText (t : Text) (nesting references : Nat) :
    valueText? [] nesting false (escapeText t) references = some (rereadValue t, references) := by
  cases nesting with
  | zero => rw [valueText?, readAll?_escapeText, Option.bind_some, valueOf?_pieces, List.nil_append]
  | succ nesting =>
      rw [valueText?, readAll?_escapeText, Option.bind_some, valueOf?_pieces, List.nil_append]

/-- A run of text that was written. -/
theorem takePieces?_pieces (enter : Text → State → Option State) (t : Text) (run : Run)
    (s : State) : takePieces? enter false (t.map pieceOf) run s =
      some (s.add (rereadRun t run).nodes) := by
  induction t generalizing run with
  | nil => rfl
  | cons c t ih =>
      have hlast : (t.map pieceOf).isEmpty = t.isEmpty := List.isEmpty_map
      rw [List.map_cons, pieceOf, rereadRun, takeChar]
      split
      · rw [takePieces?, hlast, ih]
      · rw [takePieces?, hlast, ih]

/-! ## Tags -/

/-- The name that an attribute stands for where nothing is declared. -/
def plainName (name : Text) : ExpandedName :=
  ⟨if (attributeQName name).qualifier = [] then none else some xmlUri, (attributeQName name).name⟩

/-- The attribute that is written as a name and a value. -/
def plainAttribute (a : Text × Text) : Attribute := ⟨plainName a.1, rereadValue a.2⟩

namespace IsPlainName

variable {name : Text} (h : IsPlainName name)

include h

theorem attributeName? : Tree.attributeName? [] (attributeQName name) = some (plainName name) := by
  rw [plainName, attributeQName]
  cases h with
  | plain h _ =>
      rw [QName.ofText?_of_isLocalName h]
      rfl
  | xml h _ =>
      rw [QName.ofText?_append isLocalName_xml h]
      rfl

/-- A name is found again where nothing is declared. -/
theorem qualified : (plainName name).qualified [] = name := by
  rw [plainName, attributeQName]
  cases h with
  | plain h _ =>
      rw [QName.ofText?_of_isLocalName h]
      rfl
  | xml h _ =>
      rw [QName.ofText?_append isLocalName_xml h]
      rfl

/-- An attribute is no declaration. -/
theorem takeAttribute? (s : State) (value : Text) :
    Tree.takeAttribute? s (attributeQName name) value =
      some { s with attributes := s.attributes ++ [(attributeQName name, value)] } := by
  have hqualifier : (attributeQName name).qualifier ≠ "xmlns".toList := by
    rw [attributeQName]
    cases h with
    | plain h _ =>
        rw [QName.ofText?_of_isLocalName h]
        exact (by decide : ([] : Text) ≠ "xmlns".toList)
    | xml h _ =>
        rw [QName.ofText?_append isLocalName_xml h]
        exact (by decide : "xml".toList ≠ "xmlns".toList)
  have hname : (attributeQName name).name ≠ "xmlns".toList := by
    rw [attributeQName]
    cases h with
    | plain h hne => rwa [QName.ofText?_of_isLocalName h]
    | xml h hne => rwa [QName.ofText?_append isLocalName_xml h]
  rw [Tree.takeAttribute?, if_neg hqualifier, if_neg hname]

end IsPlainName

/-- Attributes as they are read again, with their names taken apart. -/
def attributePairs (attributes : Assoc Text) : List (QName × Text) :=
  attributes.map fun a => (attributeQName a.1, rereadValue a.2)

/-- Different names stand for different names. -/
theorem nodup_plainNames {attributes : Assoc Text} (hnames : ∀ a ∈ attributes, IsPlainName a.1)
    (hdistinct : (Assoc.keys attributes).Nodup) :
    (attributes.map fun a => plainName a.1).Nodup := by
  rw [List.Nodup, List.pairwise_map]
  rw [Assoc.keys, List.Nodup, List.pairwise_map] at hdistinct
  refine hdistinct.imp_of_mem fun ha hb hne heq => hne ?_
  rw [← (hnames _ ha).qualified, heq, (hnames _ hb).qualified]

theorem foldlM_addAttribute? {attributes : Assoc Text} (h : ∀ a ∈ attributes, IsPlainName a.1)
    (before : List Attribute)
    (hdistinct : (before.map (·.name) ++ attributes.map fun a => plainName a.1).Nodup) :
    (attributePairs attributes).foldlM (addAttribute? []) before =
      some (before ++ attributes.map plainAttribute) := by
  induction attributes generalizing before with
  | nil =>
      rw [List.map_nil, List.append_nil]
      rfl
  | cons a attributes ih =>
      obtain ⟨hname, hrest⟩ := List.forall_mem_cons.mp h
      have hnew : before.any (·.name == plainName a.1) = false := by
        refine List.any_eq_false.mpr fun b hb heq => ?_
        have hdiffers := (List.nodup_append.mp hdistinct).2.2 b.name (List.mem_map_of_mem hb)
          (plainName a.1) List.mem_cons_self
        exact hdiffers (beq_iff_eq.mp heq)
      have hadd : addAttribute? [] before (attributeQName a.1, rereadValue a.2) =
          some (before ++ [plainAttribute a]) := by
        rw [addAttribute?, hname.attributeName?, Option.bind_some, hnew]
        rfl
      rw [attributePairs, List.map_cons, List.foldlM_cons, hadd, Option.bind_eq_bind,
        Option.bind_some, ← attributePairs, ih hrest]
      · rw [List.append_assoc]
        rfl
      · rw [List.map_append, List.append_assoc]
        exact hdistinct

/-! ## The element of a record -/

namespace Record

/-- The text of an element as it is read again. -/
def textNodes : Option Text → List Node
  | none => []
  | some t => (rereadRun t .empty).nodes

mutual

/-- A record as an element of a document, where nothing is declared. -/
def node : Record → Node
  | .mk name value attributes _ children =>
    .element ⟨⟨none, name⟩, [], attributes.map plainAttribute⟩ (textNodes value ++ nodes children)

/-- The children of a record as elements of a document. -/
def nodes : List (Option Text × Record) → List Node
  | [] => []
  | (_, child) :: rest => node child :: nodes rest

end

end Record

/-- A tree under construction between two tags. -/
structure Tree.State.IsClear (s : State) : Prop where
  declared : s.declared = []
  attributes : s.attributes = []

/-- A tree under construction between two tags where nothing is declared. -/
structure Tree.State.IsBare (s : State) : Prop extends State.IsClear s where
  scope : s.scope = []

namespace Tree

section Clear

variable {s : State}

theorem State.IsClear.add (h : s.IsClear) (nodes : List Node) : (s.add nodes).IsClear := by
  obtain ⟨current, declared, attributes, stack, rootsRev, references⟩ := s
  cases stack <;> exact ⟨h.declared, h.attributes⟩

theorem State.scope_add (s : State) (nodes : List Node) : (s.add nodes).scope = s.scope := by
  obtain ⟨current, declared, attributes, stack, rootsRev, references⟩ := s
  cases stack <;> rfl

theorem State.IsBare.add (h : s.IsBare) (nodes : List Node) : (s.add nodes).IsBare :=
  ⟨h.toIsClear.add nodes, (State.scope_add s nodes).trans h.scope⟩

theorem State.IsClear.withCurrent (h : s.IsClear) (current : Option QName) :
    { s with current }.IsClear := ⟨h.declared, h.attributes⟩

theorem State.IsBare.withCurrent (h : s.IsBare) (current : Option QName) :
    { s with current }.IsBare := ⟨h.toIsClear.withCurrent current, h.scope⟩

end Clear

theorem State.add_nil (s : State) : s.add [] = s := by
  obtain ⟨current, declared, attributes, stack, rootsRev, references⟩ := s
  cases stack <;> rfl

theorem State.add_append (s : State) (a b : List Node) : s.add (a ++ b) = (s.add a).add b := by
  obtain ⟨current, declared, attributes, stack, rootsRev, references⟩ := s
  cases stack with
  | nil => simp [State.add]
  | cons f fs => simp [State.add]

theorem State.add_withCurrent (s : State) (current : Option QName) (nodes : List Node) :
    { s with current }.add nodes = { s.add nodes with current } := by
  obtain ⟨_, declared, attributes, stack, rootsRev, references⟩ := s
  cases stack <;> rfl

theorem State.current_add (s : State) (nodes : List Node) : (s.add nodes).current = s.current := by
  obtain ⟨_, declared, attributes, stack, rootsRev, references⟩ := s
  cases stack <;> rfl

/-- The tree inside of an element. -/
def State.opened (name : Text) (tag : Tag) (s : State) : State :=
  { s with stack := ⟨⟨[], name⟩, tag, []⟩ :: s.stack }

theorem State.IsClear.opened {s : State} (h : s.IsClear) (name : Text) (tag : Tag) :
    (s.opened name tag).IsClear := ⟨h.declared, h.attributes⟩

theorem State.IsClear.scope_opened {s : State} (h : s.IsClear) (name : Text) (tag : Tag) :
    (s.opened name tag).scope = tag.scope := by
  rw [State.scope, State.opened, h.declared]
  rfl

/-- The tree behind some attributes of a start tag. -/
def State.tagged (attributes : Assoc Text) (s : State) : State :=
  { s with attributes := s.attributes ++ attributePairs attributes }

/-! ## Steps -/

/-- One step at the top of a document without entities. -/
theorem step?_top (s : State) (e : Event) : ∃ enter, step? [] maxNesting false s e =
    takeEvent? [] (valueText? [] maxNesting false) enter false s e := ⟨_, rfl⟩

theorem step?_start (s : State) (name : Text) :
    step? [] maxNesting false s (.start ⟨[], name⟩) =
      some { s with current := some ⟨[], name⟩ } := rfl

theorem step?_attributeEvent (s : State) (a : Text × Text) :
    step? [] maxNesting false s (Record.attributeEvent a) =
      takeAttribute? s (attributeQName a.1) (rereadValue a.2) := by
  obtain ⟨enter, hstep⟩ := step?_top s (Record.attributeEvent a)
  rw [hstep, Record.attributeEvent, takeEvent?, valueText?_escapeText]
  rfl

/-- A text inside of an element. -/
theorem foldlM_textEvents (value : Option Text) (s : State) :
    (Record.textEvents value).foldlM (step? [] maxNesting false) s =
      some (s.add (Record.textNodes value)) := by
  cases value with
  | none => exact congrArg some (State.add_nil s).symm
  | some t =>
      obtain ⟨enter, hstep⟩ := step?_top s (.text (escapeText t))
      rw [Record.textEvents, List.foldlM_cons, hstep, takeEvent?, readAll?_escapeText,
        Option.bind_some, takePieces?_pieces]
      rfl

/-- The end of an element. -/
theorem step?_close {name : Text} {tag : Tag} {s : State} (hs : s.IsClear) (nodes : List Node)
    (q : QName) :
    step? [] maxNesting false { (s.opened name tag).add nodes with current := some q }
        (.close ⟨[], name⟩) =
      some { s.add [.element tag nodes] with current := some q } := by
  obtain ⟨enter, hstep⟩ := step?_top
    { (s.opened name tag).add nodes with current := some q } (.close ⟨[], name⟩)
  obtain ⟨current, declared, before, stack, rootsRev, references⟩ := s
  obtain rfl : declared = [] := hs.declared
  obtain rfl : before = [] := hs.attributes
  rw [hstep]
  simp only [takeEvent?, takeClose?, State.add, State.opened, Option.bind_eq_bind, Option.bind_some,
    if_true, List.append_nil, List.reverse_reverse]
  cases stack <;> rfl

/-! ## Plain records -/

theorem foldlM_attributes {attributes : Assoc Text} (h : ∀ a ∈ attributes, IsPlainName a.1)
    (s : State) : (attributes.map Record.attributeEvent).foldlM (step? [] maxNesting false) s =
      some (s.tagged attributes) := by
  induction attributes generalizing s with
  | nil =>
      rw [State.tagged, attributePairs, List.map_nil, List.map_nil, List.append_nil]
      rfl
  | cons a attributes ih =>
      obtain ⟨hname, hrest⟩ := List.forall_mem_cons.mp h
      have htake : step? [] maxNesting false s (Record.attributeEvent a) = some (s.tagged [a]) :=
        (step?_attributeEvent s a).trans (hname.takeAttribute? s (rereadValue a.2))
      rw [List.map_cons, List.foldlM_cons, htake, Option.bind_eq_bind, Option.bind_some, ih hrest,
        State.tagged, State.tagged, List.append_assoc]
      rfl

theorem takeTagEnd?_of_resolved {s : State} {q : QName} {name : ExpandedName}
    {attributes : List Attribute} (hcurrent : s.current = some q)
    (hresolved : s.resolved? = some attributes) (hname : elementName? s.scope q = some name) :
    takeTagEnd? s false =
      some { s.clear with stack := ⟨q, ⟨name, s.scope, attributes⟩, []⟩ :: s.stack } := by
  rw [takeTagEnd?, hcurrent, hresolved]
  simp only [Option.bind_eq_bind, Option.bind_some, hname]
  rfl

theorem takeTagEnd?_tagged {name : Text} {attributes : Assoc Text}
    (hnames : ∀ a ∈ attributes, IsPlainName a.1) (hdistinct : (Assoc.keys attributes).Nodup)
    {s : State} (hs : s.IsBare) (hcurrent : s.current = some ⟨[], name⟩) :
    takeTagEnd? (s.tagged attributes) false =
      some (s.opened name ⟨⟨none, name⟩, [], attributes.map plainAttribute⟩) := by
  have hscope : (s.tagged attributes).scope = [] := hs.scope
  have hresolved : (s.tagged attributes).resolved? = some (attributes.map plainAttribute) := by
    rw [State.resolved?, hscope, State.tagged, hs.attributes]
    exact foldlM_addAttribute? hnames [] (nodup_plainNames hnames hdistinct)
  have hname : elementName? (s.tagged attributes).scope ⟨[], name⟩ = some ⟨none, name⟩ := by
    rw [hscope]
    rfl
  have htagged : (s.tagged attributes).current = some ⟨[], name⟩ := hcurrent
  rw [takeTagEnd?_of_resolved htagged hresolved hname, hscope]
  simp only [State.clear, State.tagged, State.opened, hs.declared, hs.attributes]

/-- The events of an element make it up when those of its children make these up. -/
theorem foldlM_element {name : Text} {value : Option Text} {attributes : Assoc Text}
    {hasChildren : Bool} {children : List (Option Text × Record)}
    (hnames : ∀ a ∈ attributes, IsPlainName a.1) (hdistinct : (Assoc.keys attributes).Nodup)
    (hchildren : ∀ s : State, s.IsBare → ∀ q, s.current = some q → ∃ q,
      (Record.eventsOfAll children).foldlM (step? [] maxNesting false) s =
        some { s.add (Record.nodes children) with current := some q })
    {s : State} (hs : s.IsBare) (hcurrent : s.current = some ⟨[], name⟩) :
    ∃ q, (Record.mk name value attributes hasChildren children).events.foldlM
        (step? [] maxNesting false) s =
      some { s.add [(Record.mk name value attributes hasChildren children).node] with
        current := some q } := by
  let tag : Tag := ⟨⟨none, name⟩, [], attributes.map plainAttribute⟩
  have hopened : (s.opened name tag).IsBare :=
    ⟨hs.toIsClear.opened name tag, hs.toIsClear.scope_opened name tag⟩
  have hend : step? [] maxNesting false (s.tagged attributes) (.tagEnd false) =
      some (s.opened name tag) := takeTagEnd?_tagged hnames hdistinct hs hcurrent
  obtain ⟨q, hinside⟩ := hchildren _ (hopened.add (Record.textNodes value)) ⟨[], name⟩
    ((State.current_add _ _).trans hcurrent)
  refine ⟨q, ?_⟩
  rw [Record.events, List.foldlM_append, foldlM_attributes hnames, Option.bind_eq_bind,
    Option.bind_some, List.foldlM_cons, hend, Option.bind_eq_bind, Option.bind_some,
    List.foldlM_append, foldlM_textEvents, Option.bind_eq_bind, Option.bind_some,
    List.foldlM_append, hinside, Option.bind_eq_bind, Option.bind_some, ← State.add_append,
    List.foldlM_cons, step?_close hs.toIsClear]
  rfl

theorem foldlM_eventsOfAll {children : List (Option Text × Record)}
    (h : ∀ child ∈ children, ∀ s : State, s.IsBare → s.current = some ⟨[], child.2.name⟩ → ∃ q,
      child.2.events.foldlM (step? [] maxNesting false) s =
        some { s.add [child.2.node] with current := some q })
    (s : State) (hs : s.IsBare) (q : QName) (hcurrent : s.current = some q) : ∃ q,
      (Record.eventsOfAll children).foldlM (step? [] maxNesting false) s =
        some { s.add (Record.nodes children) with current := some q } := by
  induction children generalizing s q with
  | nil =>
      refine ⟨q, ?_⟩
      rw [Record.nodes, State.add_nil, ← hcurrent]
      rfl
  | cons child children ih =>
      obtain ⟨hchild, hrest⟩ := List.forall_mem_cons.mp h
      obtain ⟨q, hevents⟩ := hchild _ (hs.withCurrent (some ⟨[], child.2.name⟩)) rfl
      obtain ⟨q', hothers⟩ := ih hrest _ ((hs.add [child.2.node]).withCurrent (some q)) q rfl
      refine ⟨q', ?_⟩
      rw [Record.eventsOfAll, List.foldlM_cons, step?_start, Option.bind_eq_bind, Option.bind_some,
        List.foldlM_append, hevents, Option.bind_eq_bind, Option.bind_some, State.add_withCurrent,
        hothers, State.add_withCurrent, ← State.add_append]
      rfl

/-- **The events of a plain record make up its element.** -/
theorem foldlM_events {r : Record} (h : r.IsSound) (hplain : r.IsPlain) {s : State} (hs : s.IsBare)
    (hcurrent : s.current = some ⟨[], r.name⟩) : ∃ q,
      r.events.foldlM (step? [] maxNesting false) s =
        some { s.add [r.node] with current := some q } := by
  induction h generalizing s with
  | leaf _ _ hattributes =>
      cases hplain with
      | mk hplain =>
          exact foldlM_element (fun a ha => (hplain a ha).1) hattributes.distinct
            (foldlM_eventsOfAll (List.forall_mem_nil _)) hs hcurrent
  | branch _ hattributes _ _ _ _ ih =>
      cases hplain with
      | mk hplain _ _ hchildren =>
          refine foldlM_element (fun a ha => (hplain a ha).1) hattributes.distinct ?_ hs hcurrent
          exact foldlM_eventsOfAll fun child hmem s hs hcurrent =>
            ih child hmem (hchildren child hmem) hs hcurrent

/-- **The root element of a record that was written** is the element of the record. -/
theorem read?_written {r : Record} (h : r.IsSound) (hplain : r.IsPlain) :
    Tree.read? r.written = firstElement? [r.node] := by
  have hempty : State.IsBare { State.empty with current := some ⟨[], r.name⟩ } := ⟨⟨rfl, rfl⟩, rfl⟩
  obtain ⟨q, hevents⟩ := foldlM_events h hplain hempty rfl
  rw [Tree.read?, ofDocument?_written h hplain.isReadable]
  simp only [Option.bind_eq_bind, Option.bind_some, run?, List.foldlM_cons, step?_start, hevents]
  rfl

end Tree

/-! ## The record of the element -/

namespace Record

/-- The tag of a record as it is written. -/
def tag : Record → Tag
  | .mk name _ attributes _ _ => ⟨⟨none, name⟩, [], attributes.map plainAttribute⟩

/-- What is inside of the element of a record as it is written. -/
def content : Record → List Node
  | .mk _ value _ _ children => textNodes value ++ nodes children

theorem node_eq (r : Record) : r.node = .element r.tag r.content := by
  obtain ⟨name, value, attributes, hasChildren, children⟩ := r
  rw [node, tag, content]

theorem qualified_tag (r : Record) : r.tag.qualified = r.name := by
  obtain ⟨name, value, attributes, hasChildren, children⟩ := r
  rfl

theorem name_tag (r : Record) : r.tag.name.name = r.name := by
  obtain ⟨name, value, attributes, hasChildren, children⟩ := r
  rfl

theorem attributesOf_tag {name : Text} {value : Option Text} {attributes : Assoc Text}
    {hasChildren : Bool} {children : List (Option Text × Record)}
    (hplain : ∀ a ∈ attributes, IsPlainName a.1 ∧ IsPlainValue a.2) (h : AreAttributes attributes) :
    attributesOf (tag (.mk name value attributes hasChildren children)) = attributes := by
  have hpairs : (attributes.map plainAttribute).map (fun a =>
      (Text.trim (a.name.qualified []), Text.trim a.value)) = attributes := by
    rw [List.map_map]
    refine List.map_congr_left (fun a ha => ?_) |>.trans (List.map_id _)
    obtain ⟨hname, hvalue⟩ := hplain a ha
    obtain ⟨htrimName, htrimValue⟩ := h.trimmed a ha
    change (Text.trim ((plainName a.1).qualified []), Text.trim (rereadValue a.2)) = a
    rw [hname.qualified, rereadValue_eq_self hvalue, htrimName, htrimValue]
  rw [attributesOf, tag, hpairs]
  exact Assoc.ofList_of_nodup h.distinct

theorem IsValue.not_mem_getLast? {t : Text} (h : IsValue t) : '\r' ∉ t.getLast? := by
  intro hmem
  rw [← h.trimmed] at hmem
  exact absurd (Text.isBlank_getLast_trim hmem) (by decide)

/-- The text of a text that is read again, blanks around it apart. -/
theorem valueOf_textNodes (t : Text) : valueOf (textNodes (some t)) =
    if (Text.trim (rereadRun t .empty).charsRev.reverse).isEmpty then none
    else some (Text.trim (rereadRun t .empty).charsRev.reverse) := by
  have hflat : (textNodes (some t)).flatMap textOf = (rereadRun t .empty).charsRev.reverse := by
    rw [textNodes, Run.nodes]
    split
    · next hempty => rw [List.isEmpty_iff.mp hempty]; rfl
    · exact List.append_nil _
  rw [valueOf, hflat]

theorem valueOf_plain {value : Option Text} (h : ∀ t ∈ value, IsValue t)
    (hplain : ∀ t ∈ value, t.IsChain Stays) : valueOf (textNodes value) = value := by
  cases value with
  | none => rfl
  | some t =>
      have ht := h t rfl
      rw [valueOf_textNodes, rereadRun_eq_self (hplain t rfl) ht.not_mem_getLast?,
        List.reverse_reverse, ht.trimmed, List.isEmpty_eq_false_iff.mpr ht.nonempty]
      rfl

theorem elementsOf_textNodes (value : Option Text) (nodes : List Node) :
    elementsOf (textNodes value ++ nodes) = elementsOf nodes := by
  cases value with
  | none => rfl
  | some t =>
      rw [textNodes, Run.nodes]
      split
      · rfl
      · rw [List.singleton_append, elementsOf]

theorem elementsOf_nodes {children : List (Option Text × Record)}
    (h : ∀ child ∈ children, ofElement child.2.tag child.2.content = child.2) :
    elementsOf (nodes children) = children.map fun child => (child.2.name, child.2) := by
  induction children with
  | nil => rw [nodes, elementsOf, List.map_nil]
  | cons child children ih =>
      obtain ⟨hchild, hrest⟩ := List.forall_mem_cons.mp h
      rw [nodes, node_eq, elementsOf, hchild, qualified_tag, ih hrest, List.map_cons]

/-- Children that are found where their local names put them stay there. -/
theorem place_map {children : List (Option Text × Record)}
    (h : children.map Prod.fst =
      (place (children.map fun child => (child.2.name, child.2))).map Prod.fst) :
    place (children.map fun child => (child.2.name, child.2)) = children := by
  have hrecords : (place (children.map fun child => (child.2.name, child.2))).map Prod.snd =
      children.map Prod.snd := by
    rw [place, List.map_map, List.map_map]
    rfl
  exact (List.zip_of_prod h.symm hrecords).trans (List.zip_of_prod rfl rfl).symm

/-- **The record of the element of a record** is the record. -/
theorem ofElement_node {r : Record} (h : r.IsSound) (hplain : r.IsPlain) :
    ofElement r.tag r.content = r := by
  induction h with
  | @leaf name value attributes _ hvalue hattributes =>
      cases hplain with
      | mk hplainAttributes hplainValue =>
          have hcontent : content (.mk name value attributes false []) = textNodes value := by
            rw [content, nodes, List.append_nil]
          have helements : elementsOf (textNodes value) = [] := by
            rw [← List.append_nil (textNodes value), elementsOf_textNodes, elementsOf]
          rw [hcontent, ofElement_of_nil _ helements, valueOf_plain hvalue hplainValue, name_tag,
            attributesOf_tag hplainAttributes hattributes]
          rfl
  | @branch name attributes children _ hattributes hne _ _ _ ih =>
      cases hplain with
      | mk hplainAttributes _ hplaced hchildren =>
          have helements : elementsOf (nodes children) =
              children.map fun child => (child.2.name, child.2) :=
            elementsOf_nodes fun child hmem => ih child hmem (hchildren child hmem)
          have hsome : elementsOf (nodes children) ≠ [] := by
            rwa [helements, ne_eq, List.map_eq_nil_iff]
          have hcontent : content (.mk name none attributes true children) = nodes children := rfl
          rw [hcontent, ofElement_of_ne_nil _ hsome, helements, place_map hplaced, name_tag,
            attributesOf_tag hplainAttributes hattributes]
          rfl

end Record

theorem Record.trimStart_written (r : Record) : Text.trimStart r.written = r.written := by
  refine Text.trimStart_eq_self fun c hc => ?_
  rw [Record.written_eq] at hc
  obtain rfl : '<' = c := Option.some.inj hc
  decide

/-- **The value of a plain record that was written** is the value of the record. -/
theorem read?_written {r : Record} (h : r.IsSound) (hplain : r.IsPlain) :
    read? r.written = some r.toJson := by
  rw [read?, r.trimStart_written, Tree.read?_written h hplain, Record.node_eq]
  exact congrArg (fun r => some (Record.toJson r)) (Record.ofElement_node h hplain)

end HttpExchange.Xml
