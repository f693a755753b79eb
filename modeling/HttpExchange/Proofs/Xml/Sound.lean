import HttpExchange.Proofs.Xml.Record
import Mathlib.Data.List.Nodup

/-!
# Documents that are read

Reading checks the names and the characters of a document as it goes: of the
events, of what references stand for, and of the text of entities, which is read
as events again. So the elements of a document have proper names, and their attributes
have different ones. The qualifiers that are declared are names too, and a scope
declares each of them once. The texts hold nothing that a document may not hold. A
record of such an element is sound, whatever the document was.

## Main definitions

* `Event.IsSound` — what the reader checks of an event.
* `Scope.IsSound`, `Scope.Resolves` — the declarations and the attributes of a tag.
* `Node.IsSound` — the elements and the texts of documents.
* `Tree.State.IsSound` — the invariant of a tree under construction.

## Main results

* `isSound_step?` — every event keeps the invariant, inside entities too.
* `isSound_of_read?` — the root element of a document is sound.
* `Record.isSound_ofElement` — the record of a sound element is sound.
-/

namespace HttpExchange.Xml

/-- What every step keeps holds of the result. -/
theorem foldlM_induction {α β : Type} {P : β → Prop} {f : β → α → Option β} {l : List α} {b b' : β}
    (h : l.foldlM f b = some b') (hb : P b)
    (hstep : ∀ a ∈ l, ∀ b b', P b → f b a = some b' → P b') : P b' := by
  induction l generalizing b with
  | nil => exact Option.some.inj h ▸ hb
  | cons a l ih =>
      rw [List.foldlM_cons, Option.bind_eq_bind, Option.bind_eq_some_iff] at h
      obtain ⟨next, hnext, hrest⟩ := h
      exact ih hrest (hstep a List.mem_cons_self b next hb hnext) fun x hx =>
        hstep x (List.mem_cons_of_mem a hx)

/-! ## Events -/

/-- What the reader checks of an event: its name, or the characters of its text. -/
def Event.IsSound : Event → Prop
  | .start name | .attr name _ => name.IsSound
  | .text t | .literal t => ∀ c ∈ t, isChar c = true
  | .tagEnd _ | .close _ => True

theorem isSound_of_readAttribute? {t : Text} {name : QName} {value rest : Text}
    (h : readAttribute? t = some ((name, value), rest)) : name.IsSound := by
  simp only [readAttribute?, Option.bind_eq_bind, Option.bind_eq_some_iff] at h
  obtain ⟨⟨name', _⟩, hname, _, -, ⟨value', _⟩, -, h⟩ := h
  rw [Option.ite_none_right_eq_some] at h
  cases h.2
  exact isSound_of_readQName? hname

theorem isChar_of_readUntil? {phrase t before rest : Text}
    (h : readUntil? phrase t = some (before, rest)) : ∀ c ∈ before, isChar c = true :=
  List.all_eq_true.mp (Option.filter_eq_some_iff.mp h).2

theorem isSound_of_stepTag? {r r' : Reader} {t rest : Text} {e : Event}
    (h : r.stepTag? t = some (e, r', rest)) : e.IsSound := by
  rw [Reader.stepTag?] at h
  split at h
  · cases h
    trivial
  · cases h
    trivial
  · simp only [Option.bind_eq_bind, Option.bind_eq_some_iff] at h
    obtain ⟨_, -, ⟨⟨name, value⟩, _⟩, hattribute, h⟩ := h
    cases h
    exact isSound_of_readAttribute? hattribute

theorem isSound_of_stepText? {r r' : Reader} {t rest : Text} {e : Event}
    (h : r.stepText? t = some (e, r', rest)) : e.IsSound := by
  rw [Reader.stepText?, Option.ite_none_right_eq_some] at h
  obtain ⟨hchars, h⟩ := h
  cases h
  exact List.all_eq_true.mp ((Bool.and_eq_true _ _).mp hchars).1

theorem isSound_of_stepClose? {r r' : Reader} {t rest : Text} {e : Event}
    (h : r.stepClose? t = some (e, r', rest)) : e.IsSound := by
  simp only [Reader.stepClose?, Option.bind_eq_bind, Option.bind_eq_some_iff] at h
  obtain ⟨_, -, _, -, h⟩ := h
  cases h
  trivial

theorem isSound_of_stepContent? {r r' : Reader} {t rest : Text} {e : Event}
    (h : r.stepContent? t = some (some e, r', rest)) : e.IsSound := by
  unfold Reader.stepContent? at h
  dsimp only at h
  split at h
  · split at h
    · obtain ⟨_, -, heq⟩ := Option.map_eq_some_iff.mp h
      cases heq
    · simp only [Option.bind_eq_bind, Option.bind_eq_some_iff] at h
      obtain ⟨_, -, ⟨run, _⟩, hrun, h⟩ := h
      cases h
      exact isChar_of_readUntil? hrun
  · obtain ⟨_, -, heq⟩ := Option.map_eq_some_iff.mp h
    cases heq
  · obtain ⟨⟨e, _⟩, hclose, heq⟩ := Option.map_eq_some_iff.mp h
    cases heq
    exact isSound_of_stepClose? hclose
  · obtain ⟨⟨name, _⟩, hname, heq⟩ := Option.map_eq_some_iff.mp h
    cases heq
    exact isSound_of_readQName? hname
  · obtain ⟨⟨e, _⟩, htext, heq⟩ := Option.map_eq_some_iff.mp h
    cases heq
    exact isSound_of_stepText? htext

theorem isSound_of_step? {r r' : Reader} {t rest : Text} {e : Event}
    (h : r.step? t = some (some e, r', rest)) : e.IsSound := by
  rw [Reader.step?] at h
  split at h
  · obtain ⟨⟨e, _⟩, htag, heq⟩ := Option.map_eq_some_iff.mp h
    cases heq
    exact isSound_of_stepTag? htag
  · exact isSound_of_stepContent? h

/-- **The events that are read are sound.** -/
theorem isSound_of_readAll? {fuel : Nat} {r : Reader} {t rest : Text} {es : List Event}
    (h : Event.readAll? fuel r t = some (es, rest)) : ∀ e ∈ es, e.IsSound := by
  induction fuel generalizing r t es with
  | zero => cases h
  | succ fuel ih =>
      rw [Event.readAll?] at h
      split at h
      · cases h
        exact List.forall_mem_nil _
      · simp only [Option.bind_eq_bind, Option.bind_eq_some_iff] at h
        obtain ⟨⟨e, r', t'⟩, hstep, ⟨es', rest'⟩, hrest, h⟩ := h
        cases h
        cases e with
        | none => exact ih hrest
        | some e => exact List.forall_mem_cons.mpr ⟨isSound_of_step? hstep, ih hrest⟩

theorem isSound_of_ofContent? {t : Text} {es : List Event} (h : Event.ofContent? t = some es) :
    ∀ e ∈ es, e.IsSound := by
  obtain ⟨⟨es, rest⟩, hread, heq⟩ := Option.map_eq_some_iff.mp h
  cases heq
  exact isSound_of_readAll? hread

theorem isSound_of_ofDocument? {t : Text} {entities : Entities} {es : List Event}
    (h : Event.ofDocument? t = some (entities, es)) : ∀ e ∈ es, e.IsSound := by
  simp only [Event.ofDocument?, Option.bind_eq_bind, Option.bind_eq_some_iff] at h
  obtain ⟨⟨entities', t'⟩, -, h⟩ := h
  dsimp only at h
  split at h
  · simp only [Option.bind_eq_some_iff] at h
    obtain ⟨⟨name, _⟩, hname, ⟨es', _⟩, hread, _, -, h⟩ := h
    rw [Option.ite_none_right_eq_some] at h
    cases h.2
    exact List.forall_mem_cons.mpr ⟨isSound_of_readQName? hname, isSound_of_readAll? hread⟩
  · cases h

/-! ## References -/

/-- What the reader knows of a piece of a text. -/
def Piece.IsSound : Piece → Prop
  | .written c | .referred c => isChar c = true
  | .entity _ => True

theorem isSound_of_ofReference? {entities : Entities} {name : Text} {piece : Piece}
    (h : Piece.ofReference? entities name = some piece) : piece.IsSound := by
  have hnumber : ∀ {n? : Option Nat} {piece : Piece},
      (n?.bind charOfNumber?).map Piece.referred = some piece → piece.IsSound := by
    intro n? piece h
    obtain ⟨c, hc, rfl⟩ := Option.map_eq_some_iff.mp h
    obtain ⟨n, -, hc⟩ := Option.bind_eq_some_iff.mp hc
    obtain ⟨hchar, heq⟩ := Option.ite_none_right_eq_some.mp hc
    exact Option.some.inj heq ▸ hchar
  unfold Piece.ofReference? at h
  split at h
  · exact hnumber h
  · exact hnumber h
  · split at h
    · next c hfind =>
        cases h
        exact (by decide : ∀ p ∈ predefined, isChar p.2 = true) _ (List.mem_of_find?_eq_some hfind)
    · rw [Option.ite_none_right_eq_some] at h
      obtain ⟨t, -, rfl⟩ := Option.map_eq_some_iff.mp h.2
      trivial

/-- The characters of a text that a document may hold stay such when references are taken out. -/
theorem isSound_of_pieces {entities : Entities} (t : Text) {pieces : List Piece}
    (h : Piece.readAll? entities t = some pieces) (ht : ∀ c ∈ t, isChar c = true) :
    ∀ piece ∈ pieces, piece.IsSound := by
  fun_induction Piece.readAll? entities t generalizing pieces with
  | case1 =>
      cases h
      exact List.forall_mem_nil _
  | case2 => cases h
  | case3 rest name rest' hsplit ih =>
      simp only [Option.bind_eq_bind, Option.bind_eq_some_iff] at h
      obtain ⟨piece, hpiece, pieces, hpieces, h⟩ := h
      cases h
      refine List.forall_mem_cons.mpr ⟨isSound_of_ofReference? hpiece, ih hpieces fun c hc => ?_⟩
      refine ht c (List.mem_cons_of_mem _ ?_)
      rw [Text.eq_of_splitFirst hsplit]
      exact List.mem_append_right _ (List.mem_cons_of_mem _ hc)
  | case4 c rest _ ih =>
      obtain ⟨pieces, hpieces, rfl⟩ := Option.map_eq_some_iff.mp h
      obtain ⟨hc, hrest⟩ := List.forall_mem_cons.mp ht
      exact List.forall_mem_cons.mpr ⟨hc, ih hpieces hrest⟩

/-! ## Nodes -/

/-- What the reader checks of a declaration: the qualifier is a name, and not the one that needs no
declaration. -/
structure Binding.IsSound (b : Binding) : Prop where
  qualifier : ∀ q ∈ b.qualifier, IsLocalName q
  notXml : b.qualifier ≠ some "xml".toList

/-- In a scope, a qualifier has one declaration. The default may have several. -/
structure Scope.IsSound (scope : Scope) : Prop where
  bindings : ∀ b ∈ scope, b.IsSound
  unique : ∀ b ∈ scope, ∀ b' ∈ scope, ∀ q, b.qualifier = some q → b'.qualifier = some q → b = b'

/-- Attributes that have names, no two of them the same, in namespaces that the scope knows. -/
structure Scope.Resolves (scope : Scope) (attributes : List Attribute) : Prop where
  names : ∀ a ∈ attributes, IsLocalName a.name.name
  declared : ∀ a ∈ attributes, ∀ uri ∈ a.name.uri, uri = xmlUri ∨ ∃ b ∈ scope, b.uri = uri
  distinct : (attributes.map (·.name)).Nodup

/-- A tag has a name, and its attributes have names in its scope. -/
structure Tag.IsSound (tag : Tag) : Prop where
  name : IsLocalName tag.name.name
  scope : Scope.IsSound tag.scope
  attributes : tag.scope.Resolves tag.attributes

/-- The elements and the texts of documents. -/
inductive Node.IsSound : Node → Prop
  | text {t : Text} (hchars : ∀ c ∈ t, isChar c = true) : IsSound (.text t)
  | element {tag : Tag} {children : List Node} (htag : tag.IsSound)
      (hchildren : ∀ child ∈ children, IsSound child) : IsSound (.element tag children)

theorem Scope.isSound_nil : Scope.IsSound [] := ⟨List.forall_mem_nil _, List.forall_mem_nil _⟩

/-- A declaration may be added unless its qualifier is declared. -/
theorem Scope.IsSound.concat {scope : Scope} (h : Scope.IsSound scope) {b : Binding}
    (hb : b.IsSound) (hnew : ∀ q, b.qualifier = some q → declares b.qualifier scope = false) :
    Scope.IsSound (scope ++ [b]) := by
  have hother : ∀ b' ∈ scope, ∀ q, b.qualifier = some q → b'.qualifier ≠ some q := by
    intro b' hmem q hq heq
    have hdeclared : declares b.qualifier scope = true :=
      List.any_eq_true.mpr ⟨b', hmem, beq_iff_eq.mpr (heq.trans hq.symm)⟩
    rw [hnew q hq] at hdeclared
    cases hdeclared
  refine ⟨List.forall_mem_append.mpr ⟨h.bindings, List.forall_mem_singleton.mpr hb⟩, ?_⟩
  simp only [List.forall_mem_append, List.forall_mem_singleton]
  refine ⟨fun c hc => ⟨fun c' hc' => h.unique c hc c' hc', fun q hq hq' => ?_⟩,
    fun c' hc' q hq hq' => ?_, fun _ _ _ => trivial⟩
  · exact absurd hq (hother c hc q hq')
  · exact absurd hq' (hother c' hc' q hq)

theorem Scope.IsSound.extend {outer own : Scope} (houter : Scope.IsSound outer)
    (hown : Scope.IsSound own) : Scope.IsSound (outer.extend own) := by
  suffices h : ∀ bs : Scope, (∀ b ∈ bs, b.IsSound) → Scope.IsSound (Scope.extend bs own) from
    h outer houter.bindings
  intro bs hbs
  rw [Scope.extend]
  induction bs generalizing own with
  | nil => exact hown
  | cons b bs ih =>
      obtain ⟨hb, hrest⟩ := List.forall_mem_cons.mp hbs
      refine ih ?_ hrest
      change Scope.IsSound (if declares b.qualifier own then own else own ++ [b])
      split
      · exact hown
      · next hnew => exact hown.concat hb fun _ _ => Bool.eq_false_iff.mpr hnew

namespace Tree

/-! ## Runs of text -/

theorem Run.isChar_push {c : Char} {charsRev : Text} (hc : isChar c = true)
    (h : ∀ c ∈ charsRev, isChar c = true) (isLast : Bool) :
    ∀ d ∈ Run.push c isLast charsRev, isChar d = true := by
  have hfeed : isChar '\n' = true := by decide
  have hlast : isChar (if isLast && c == '\r' then '\n' else c) = true := by
    split
    · exact hfeed
    · exact hc
  unfold Run.push
  dsimp only
  split
  · obtain ⟨-, hbefore⟩ := List.forall_mem_cons.mp h
    split
    · exact List.forall_mem_cons.mpr ⟨hfeed, hbefore⟩
    · exact List.forall_mem_cons.mpr ⟨hlast, List.forall_mem_cons.mpr ⟨hfeed, hbefore⟩⟩
  · exact List.forall_mem_cons.mpr ⟨hlast, h⟩

section Run

variable {run : Run} (h : ∀ c ∈ run.charsRev, isChar c = true) {c : Char} (hc : isChar c = true)

include h

theorem Run.isSound_nodes : ∀ n ∈ run.nodes, n.IsSound := by
  rw [Run.nodes]
  split
  · exact List.forall_mem_nil _
  · exact List.forall_mem_singleton.mpr (.text fun c hc => h c (List.mem_reverse.mp hc))

include hc

theorem Run.isChar_written (isLast : Bool) :
    ∀ d ∈ (run.written c isLast).charsRev, isChar d = true := by
  rw [Run.written]
  split
  · exact List.forall_mem_cons.mpr ⟨hc, h⟩
  · exact Run.isChar_push hc h isLast

theorem Run.isChar_referred (nested isLast : Bool) :
    ∀ d ∈ (run.referred nested c isLast).charsRev, isChar d = true := by
  rw [Run.referred]
  split
  · exact Run.isChar_push hc h isLast
  · exact List.forall_mem_cons.mpr ⟨hc, h⟩

end Run

theorem Run.isChar_ofLiteral {t : Text} (ht : ∀ c ∈ t, isChar c = true) {run : Run}
    (h : ∀ c ∈ run.charsRev, isChar c = true) :
    ∀ c ∈ (Run.ofLiteral t run).charsRev, isChar c = true := by
  induction t generalizing run with
  | nil => exact h
  | cons c t ih =>
      obtain ⟨hc, hrest⟩ := List.forall_mem_cons.mp ht
      exact ih hrest (Run.isChar_written h hc _)

/-! ## Trees under construction -/

/-- An element that is open has a proper tag and proper children. -/
structure Frame.IsSound (f : Frame) : Prop where
  tag : f.tag.IsSound
  children : ∀ n ∈ f.childrenRev, n.IsSound

/-- What holds of a tree under construction. -/
structure State.IsSound (s : State) : Prop where
  current : ∀ q ∈ s.current, q.IsSound
  declared : Scope.IsSound s.declared
  attributes : ∀ a ∈ s.attributes, a.1.IsSound
  stack : ∀ f ∈ s.stack, f.IsSound
  roots : ∀ n ∈ s.rootsRev, n.IsSound

theorem name_elementName? {scope : Scope} {q : QName} {name : ExpandedName}
    (h : elementName? scope q = some name) : name.name = q.name := by
  rw [elementName?] at h
  split at h
  · cases h
    rfl
  · obtain ⟨uri, -, rfl⟩ := Option.map_eq_some_iff.mp h
    rfl

theorem name_attributeName? {scope : Scope} {q : QName} {name : ExpandedName}
    (h : attributeName? scope q = some name) : name.name = q.name := by
  rw [attributeName?] at h
  split at h
  · cases h
    rfl
  · split at h
    · cases h
      rfl
    · obtain ⟨uri, -, rfl⟩ := Option.map_eq_some_iff.mp h
      rfl

/-- The namespace of an attribute is the one of `xml`, or it is declared. -/
theorem uri_attributeName? {scope : Scope} {q : QName} {name : ExpandedName}
    (h : attributeName? scope q = some name) :
    ∀ uri ∈ name.uri, uri = xmlUri ∨ ∃ b ∈ scope, b.uri = uri := by
  rw [attributeName?] at h
  split at h
  · cases h
    exact fun uri huri => .inl (Option.some.inj huri).symm
  · split at h
    · cases h
      exact fun uri huri => by cases huri
    · obtain ⟨uri, huri, rfl⟩ := Option.map_eq_some_iff.mp h
      obtain ⟨b, hfind, rfl⟩ := Option.map_eq_some_iff.mp huri
      exact fun uri huri => .inr ⟨b, List.mem_of_find?_eq_some hfind, Option.some.inj huri⟩

namespace State.IsSound

variable {s s' : State} (h : s.IsSound)

include h

theorem add {nodes : List Node} (hnodes : ∀ n ∈ nodes, n.IsSound) : (s.add nodes).IsSound := by
  have hreverse : ∀ n ∈ nodes.reverse, n.IsSound := fun n hn => hnodes n (List.mem_reverse.mp hn)
  obtain ⟨current, declared, attributes, stack, rootsRev, references⟩ := s
  cases stack with
  | nil =>
      exact ⟨h.current, h.declared, h.attributes, h.stack,
        List.forall_mem_append.mpr ⟨hreverse, h.roots⟩⟩
  | cons f fs =>
      obtain ⟨hf, hfs⟩ := List.forall_mem_cons.mp h.stack
      have hadded : ∀ n ∈ nodes.reverse ++ f.childrenRev, n.IsSound :=
        List.forall_mem_append.mpr ⟨hreverse, hf.children⟩
      exact ⟨h.current, h.declared, h.attributes,
        List.forall_mem_cons.mpr ⟨⟨hf.tag, hadded⟩, hfs⟩, h.roots⟩

theorem clear : s.clear.IsSound :=
  ⟨h.current, Scope.isSound_nil, List.forall_mem_nil _, h.stack, h.roots⟩

theorem scope : Scope.IsSound s.scope := by
  obtain ⟨current, declared, attributes, stack, rootsRev, references⟩ := s
  cases stack with
  | nil => exact h.declared
  | cons f fs =>
      have hf := (h.stack f List.mem_cons_self).tag.scope
      change Scope.IsSound (if declared.isEmpty then f.tag.scope else f.tag.scope.extend declared)
      split
      · exact hf
      · exact hf.extend h.declared

theorem declare {b : Binding} (hb : b.IsSound)
    (hnew : ∀ q, b.qualifier = some q → Scope.declares b.qualifier s.declared = false) :
    State.IsSound { s with declared := s.declared ++ [b] } :=
  ⟨h.current, h.declared.concat hb hnew, h.attributes, h.stack, h.roots⟩

theorem takeAttribute? {q : QName} (hq : q.IsSound) {value : Text}
    (htake : Tree.takeAttribute? s q value = some s') : s'.IsSound := by
  rw [Tree.takeAttribute?] at htake
  split at htake
  · rw [Option.ite_none_left_eq_some] at htake
    obtain ⟨hbind, htake⟩ := htake
    simp only [mayBind, Bool.not_eq_true', Bool.not_eq_false, Bool.and_eq_true] at hbind
    obtain ⟨⟨-, hxml⟩, hnew⟩ := hbind
    split at htake
    · cases htake
      exact h
    · next huri =>
        cases htake
        refine h.declare ⟨fun q' hmem => Option.some.inj hmem ▸ hq.name, fun heq => ?_⟩
          fun _ _ => hnew
        rw [Option.some.inj heq, beq_self_eq_true, beq_iff_eq, eq_comm, beq_iff_eq] at hxml
        exact huri hxml
  · split at htake
    · rw [Option.ite_none_left_eq_some] at htake
      cases htake.2
      exact h.declare ⟨fun _ hmem => (by cases hmem), nofun⟩ nofun
    · cases htake
      have hadded : ∀ a ∈ s.attributes ++ [(q, value)], a.1.IsSound :=
        List.forall_mem_append.mpr ⟨h.attributes, List.forall_mem_singleton.mpr hq⟩
      exact ⟨h.current, h.declared, hadded, h.stack, h.roots⟩

/-- The attributes of a tag, at its end. -/
theorem resolved? {attributes : List Attribute} (hresolved : s.resolved? = some attributes) :
    s.scope.Resolves attributes := by
  refine foldlM_induction (P := s.scope.Resolves) hresolved
    ⟨List.forall_mem_nil _, List.forall_mem_nil _, List.nodup_nil⟩
    fun a ha before after hbefore hadd => ?_
  obtain ⟨name, hname, hadd⟩ := Option.bind_eq_some_iff.mp hadd
  rw [Option.ite_none_left_eq_some] at hadd
  obtain ⟨hnew, heq⟩ := hadd
  cases heq
  refine ⟨?_, ?_, ?_⟩
  · refine List.forall_mem_append.mpr ⟨hbefore.names, List.forall_mem_singleton.mpr ?_⟩
    rw [name_attributeName? hname]
    exact (h.attributes a ha).name
  · exact List.forall_mem_append.mpr
      ⟨hbefore.declared, List.forall_mem_singleton.mpr (uri_attributeName? hname)⟩
  · rw [List.map_append, List.map_singleton, ← List.concat_eq_append]
    refine List.Nodup.concat (fun hmem => hnew ?_) hbefore.distinct
    obtain ⟨other, hother, heq⟩ := List.mem_map.mp hmem
    exact List.any_eq_true.mpr ⟨other, hother, beq_iff_eq.mpr heq⟩

theorem takeTagEnd? {isEmpty : Bool} (htake : Tree.takeTagEnd? s isEmpty = some s') :
    s'.IsSound := by
  simp only [Tree.takeTagEnd?, Option.bind_eq_bind, Option.bind_eq_some_iff] at htake
  obtain ⟨q, hcurrent, attributes, hresolved, name, hname, htake⟩ := htake
  have htag : Tag.IsSound ⟨name, s.scope, attributes⟩ := by
    refine ⟨?_, h.scope, h.resolved? hresolved⟩
    rw [name_elementName? hname]
    exact (h.current q hcurrent).name
  split at htake
  · cases htake
    exact h.clear.add (List.forall_mem_singleton.mpr (.element htag (List.forall_mem_nil _)))
  · cases htake
    exact ⟨h.current, Scope.isSound_nil, List.forall_mem_nil _,
      List.forall_mem_cons.mpr ⟨⟨htag, List.forall_mem_nil _⟩, h.stack⟩, h.roots⟩

theorem takeClose? {q : QName} (htake : Tree.takeClose? s q = some s') : s'.IsSound := by
  simp only [Tree.takeClose?, Option.bind_eq_bind, Option.bind_eq_some_iff] at htake
  obtain ⟨_, -, _, -, htake⟩ := htake
  split at htake
  · cases htake
  · next f fs hstack =>
      rw [Option.ite_none_right_eq_some] at htake
      cases htake.2
      obtain ⟨hf, hfs⟩ := List.forall_mem_cons.mp (hstack ▸ h.stack)
      have hbelow : State.IsSound { s.clear with stack := fs } :=
        ⟨h.current, Scope.isSound_nil, List.forall_mem_nil _, hfs, h.roots⟩
      refine hbelow.add (List.forall_mem_singleton.mpr (.element hf.tag fun n hn => ?_))
      exact hf.children n (List.mem_reverse.mp hn)

theorem takePieces? {enter : Text → State → Option State} {nested : Bool}
    (henter : ∀ t (s s' : State), s.IsSound → enter t s = some s' → s'.IsSound)
    {pieces : List Piece} (hpieces : ∀ piece ∈ pieces, piece.IsSound) {run : Run}
    (hrun : ∀ c ∈ run.charsRev, isChar c = true)
    (htake : Tree.takePieces? enter nested pieces run s = some s') : s'.IsSound := by
  induction pieces generalizing s run with
  | nil =>
      cases htake
      exact h.add (Run.isSound_nodes hrun)
  | cons piece pieces ih =>
      obtain ⟨hpiece, hrest⟩ := List.forall_mem_cons.mp hpieces
      cases piece with
      | written c => exact ih h hrest (Run.isChar_written hrun hpiece _) htake
      | referred c => exact ih h hrest (Run.isChar_referred hrun hpiece nested _) htake
      | entity t =>
          simp only [Tree.takePieces?, Option.bind_eq_bind, Option.bind_eq_some_iff] at htake
          obtain ⟨references, -, inner, hinner, htake⟩ := htake
          have hadded := h.add (Run.isSound_nodes hrun)
          have hentered : State.IsSound { s.add run.nodes with current := none, references } :=
            ⟨fun q hmem => (by cases hmem), hadded.declared, hadded.attributes, hadded.stack,
              hadded.roots⟩
          have hsound := henter t _ inner hentered hinner
          refine ih ?_ hrest (List.forall_mem_nil _) htake
          exact ⟨hadded.current, hsound.declared, hsound.attributes, hsound.stack, hsound.roots⟩

/-- One event keeps the invariant when entities do. -/
theorem takeEvent? {entities : Entities} {value? : Text → Nat → Option (Text × Nat)}
    {enter : Text → State → Option State} {nested : Bool}
    (henter : ∀ t (s s' : State), s.IsSound → enter t s = some s' → s'.IsSound) {e : Event}
    (he : e.IsSound) (htake : Tree.takeEvent? entities value? enter nested s e = some s') :
    s'.IsSound := by
  cases e with
  | start q =>
      simp only [Tree.takeEvent?, Option.ite_none_left_eq_some, Option.some.injEq] at htake
      obtain ⟨-, rfl⟩ := htake
      exact ⟨fun q' hmem => Option.some.inj hmem ▸ he, h.declared, h.attributes, h.stack, h.roots⟩
  | attr q t =>
      simp only [Tree.takeEvent?, Option.bind_eq_bind, Option.bind_eq_some_iff] at htake
      obtain ⟨⟨value, references⟩, -, htake⟩ := htake
      have hcounted : State.IsSound { s with references } :=
        ⟨h.current, h.declared, h.attributes, h.stack, h.roots⟩
      exact hcounted.takeAttribute? he htake
  | tagEnd isEmpty => exact h.takeTagEnd? htake
  | close q => exact h.takeClose? htake
  | text t =>
      obtain ⟨pieces, hpieces, htake⟩ := Option.bind_eq_some_iff.mp htake
      exact h.takePieces? henter (isSound_of_pieces t hpieces he) (List.forall_mem_nil _) htake
  | literal t =>
      cases htake
      exact h.add (Run.isSound_nodes (Run.isChar_ofLiteral he (List.forall_mem_nil _)))

end State.IsSound

/-- **Every event keeps the invariant**, whatever entities it refers to. -/
theorem isSound_step? {entities : Entities} {nesting : Nat} {nested : Bool} {s s' : State}
    {e : Event} (h : s.IsSound) (he : e.IsSound)
    (hstep : step? entities nesting nested s e = some s') : s'.IsSound := by
  induction nesting generalizing nested s s' e with
  | zero => exact h.takeEvent? (fun _ _ _ _ henter => by cases henter) he hstep
  | succ nesting ih =>
      refine h.takeEvent? (fun t s s' hs henter => ?_) he hstep
      obtain ⟨es, hes, hrun⟩ := Option.bind_eq_some_iff.mp henter
      exact foldlM_induction hrun hs fun e he s s' hs hstep =>
        ih hs (isSound_of_ofContent? hes e he) hstep

theorem isSound_run? {entities : Entities} {es : List Event} {s : State}
    (hes : ∀ e ∈ es, e.IsSound) (h : run? entities es = some s) : s.IsSound := by
  have hempty : State.empty.IsSound :=
    ⟨fun q hmem => (by cases hmem), Scope.isSound_nil, List.forall_mem_nil _,
      List.forall_mem_nil _, List.forall_mem_nil _⟩
  exact foldlM_induction h hempty fun e he s s' hs hstep => isSound_step? hs (hes e he) hstep

/-- **The root element of a document is sound.** -/
theorem isSound_of_read? {t : Text} {tag : Tag} {nodes : List Node}
    (h : Tree.read? t = some (tag, nodes)) : (Node.element tag nodes).IsSound := by
  simp only [Tree.read?, Option.bind_eq_bind, Option.bind_eq_some_iff] at h
  obtain ⟨⟨entities, es⟩, hdocument, s, hrun, h⟩ := h
  have hs := isSound_run? (isSound_of_ofDocument? hdocument) hrun
  rw [Option.ite_none_right_eq_some] at h
  have hfirst : firstElement? s.rootsRev.reverse = some (tag, nodes) := h.2
  obtain ⟨node, hmem, heq⟩ := List.exists_of_findSome?_eq_some hfirst
  have hnode := hs.roots node (List.mem_reverse.mp hmem)
  cases node with
  | text t => cases heq
  | element tag' nodes' =>
      cases heq
      exact hnode

end Tree

/-! ## Records -/

namespace Record

theorem IsKey.append {key : Text} (h : IsKey key) (t : Text) : IsKey (key ++ t) := by
  obtain ⟨c, hc, hstart⟩ := h
  cases key with
  | nil => cases hc
  | cons d key => exact ⟨c, hc, hstart⟩

theorem isKey_of_isLocalName {name : Text} (h : IsLocalName name) : IsKey name := by
  obtain ⟨c, rest, rfl, hstart⟩ := h.exists_cons
  exact ⟨c, rfl, hstart⟩

/-- A name is written as it is, or behind a qualifier that the scope knows. -/
theorem qualified_cases {name : ExpandedName} {scope : Scope} (hscope : Scope.IsSound scope) :
    name.qualified scope = name.name ∨ ∃ qualifier, IsLocalName qualifier ∧
      name.qualified scope = qualifier ++ ':' :: name.name := by
  rw [ExpandedName.qualified]
  split
  · next qualifier hqualifier =>
      split
      · exact .inl rfl
      · refine .inr ⟨qualifier, ?_, rfl⟩
        obtain ⟨uri, -, hfound⟩ := Option.bind_eq_some_iff.mp hqualifier
        rw [Scope.qualifier?] at hfound
        split at hfound
        · exact Option.some.inj hfound ▸ isLocalName_xml
        · obtain ⟨b, hfind, hb⟩ := Option.bind_eq_some_iff.mp hfound
          exact (hscope.bindings b (List.mem_of_find?_eq_some hfind)).qualifier qualifier hb
  · exact .inl rfl

theorem isKey_qualified {tag : Tag} (h : tag.IsSound) : IsKey tag.qualified := by
  rw [Tag.qualified]
  rcases qualified_cases h.scope with hname | ⟨qualifier, hqualifier, hname⟩
  · exact hname ▸ isKey_of_isLocalName h.name
  · exact hname ▸ (isKey_of_isLocalName hqualifier).append _

theorem areAttributes_attributesOf {tag : Tag} (h : tag.IsSound) :
    AreAttributes (attributesOf tag) := by
  have hmem : ∀ a ∈ attributesOf tag, ∃ b ∈ tag.attributes,
      a = (Text.trim (b.name.qualified tag.scope), Text.trim b.value) := by
    rintro ⟨name, value⟩ ha
    obtain ⟨b, hb, heq⟩ := List.mem_map.mp (Assoc.mem_ofList ha)
    exact ⟨b, hb, heq.symm⟩
  refine ⟨Assoc.nodup_keys_ofList _, fun a ha => ?_, fun a ha => ?_⟩
  · obtain ⟨b, -, rfl⟩ := hmem a ha
    exact ⟨Text.trim_trim _, Text.trim_trim _⟩
  · obtain ⟨b, hb, rfl⟩ := hmem a ha
    intro c hc
    have hname := h.attributes.names b hb
    have hc := Text.trim_subset hc
    rcases qualified_cases h.scope with hqualified | ⟨qualifier, hqualifier, hqualified⟩
    · rw [hqualified] at hc
      exact hname.chars c hc
    · rw [hqualified] at hc
      rcases List.mem_append.mp hc with hc | hc
      · exact hqualifier.chars c hc
      · rcases List.mem_cons.mp hc with rfl | hc
        · decide
        · exact hname.chars c hc

theorem isValue_of_valueOf {nodes : List Node} (h : ∀ n ∈ nodes, n.IsSound) :
    ∀ t ∈ valueOf nodes, IsValue t := by
  intro t ht
  rw [valueOf] at ht
  obtain ⟨hne, heq⟩ := Option.ite_none_left_eq_some.mp ht
  obtain rfl := Option.some.inj heq
  refine ⟨fun hnil => hne (List.isEmpty_iff.mpr hnil), Text.trim_trim _, fun c hc => ?_⟩
  obtain ⟨n, hn, hc⟩ := List.mem_flatMap.mp (Text.trim_subset hc)
  cases h n hn with
  | text hchars => exact hchars c hc
  | element _ _ => cases hc

theorem mem_elementsOf {nodes : List Node} {child : Text × Record} (h : child ∈ elementsOf nodes) :
    ∃ tag children, Node.element tag children ∈ nodes ∧
      child = (tag.qualified, ofElement tag children) := by
  induction nodes with
  | nil =>
      rw [elementsOf] at h
      cases h
  | cons n nodes ih =>
      cases n with
      | text t =>
          rw [elementsOf] at h
          obtain ⟨tag, children, hmem, heq⟩ := ih h
          exact ⟨tag, children, List.mem_cons_of_mem _ hmem, heq⟩
      | element tag children =>
          rw [elementsOf] at h
          rcases List.mem_cons.mp h with rfl | h
          · exact ⟨tag, children, List.mem_cons_self, rfl⟩
          · obtain ⟨tag', children', hmem, heq⟩ := ih h
            exact ⟨tag', children', List.mem_cons_of_mem _ hmem, heq⟩

/-- **The record of a sound element is sound.** -/
theorem isSound_ofElement {tag : Tag} {nodes : List Node}
    (h : (Node.element tag nodes).IsSound) : (ofElement tag nodes).IsSound := by
  generalize hnode : Node.element tag nodes = node at h
  induction h generalizing tag nodes with
  | text => cases hnode
  | @element tag nodes htag hchildren ih =>
      cases hnode
      by_cases hnil : elementsOf nodes = []
      · rw [ofElement_of_nil tag hnil]
        exact .leaf htag.name (isValue_of_valueOf hchildren) (areAttributes_attributesOf htag)
      · rw [ofElement_of_ne_nil tag hnil]
        have helement : ∀ child ∈ elementsOf nodes, IsKey child.1 ∧ child.2.IsSound := by
          intro child hmem
          obtain ⟨tag', children', hnode, rfl⟩ := mem_elementsOf hmem
          cases hchildren _ hnode with
          | element htag' _ => exact ⟨isKey_qualified htag', ih _ hnode rfl⟩
        refine .branch htag.name (areAttributes_attributesOf htag) ?_ ?_ ?_ fun child hmem => ?_
        · rwa [place, ne_eq, List.map_eq_nil_iff]
        · exact fun key hmem => forall_mem_place (fun child hmem => (helement child hmem).1) hmem
        · exact nodup_keysFrom_place fun child hmem => (helement child hmem).1.ne_ofNat
        · obtain ⟨child', hmem', rfl⟩ := List.mem_map.mp hmem
          exact (helement child' hmem').2

end Record

/-! ## Documents -/

/-- The record of a document. -/
def document? (t : Text) : Option Record :=
  (Tree.read? (Text.trimStart t)).map fun (tag, nodes) => Record.ofElement tag nodes

theorem read?_eq_document? (t : Text) : read? t = (document? t).map Record.toJson := by
  rw [read?, document?, Option.map_map]
  rfl

/-- **The record of a document is sound.** -/
theorem isSound_of_document? {t : Text} {r : Record} (h : document? t = some r) : r.IsSound := by
  obtain ⟨⟨tag, nodes⟩, hread, rfl⟩ := Option.map_eq_some_iff.mp h
  exact Record.isSound_ofElement (Tree.isSound_of_read? hread)

end HttpExchange.Xml
