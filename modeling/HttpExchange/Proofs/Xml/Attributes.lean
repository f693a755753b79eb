import HttpExchange.Proofs.Xml.Children
import HttpExchange.Proofs.Xml.Exact

/-!
# Attributes in the values of documents

The attributes of an element differ by their local names or by their namespaces.
In the value of the element, an attribute is found under its local name, behind a
qualifier that stands for its namespace. Different namespaces have different
qualifiers. But the qualifier is looked up among all declarations of the
namespace, and when the first one is the default declaration, which is none for
attributes, the attribute is found under its local name alone. There it may meet
an attribute without a namespace, or one of another namespace that was a default
further out. Of two attributes that meet, the value keeps one.

Some characters of names are blanks, and a name is found without the blanks at its
ends. So names that differ in these may meet as well.

## Main definitions

* `Node.HasElement` — the elements of a document.
* `ExpandedName.IsBare`, `ExpandedName.HasQualifier` — how a name is found in a scope.
* `Clash` — names that meet.

## Main results

* `clash_iff` — which attributes of an element are found under one name.
* `clash_iff_isBare` — when no name has a blank at its ends, these are attributes
  without qualifiers.
* `attributes_kept_unless_clash` — otherwise, every attribute of a document is in
  its value.
-/

namespace HttpExchange.Xml

/-! ## Elements -/

/-- An element is one of its own, and so are those inside of it. -/
inductive Node.HasElement : Node → Tag → List Node → Prop
  | self {tag : Tag} {nodes : List Node} : HasElement (.element tag nodes) tag nodes
  | inside {outer tag : Tag} {nodes nodes' : List Node} {child : Node} (hmem : child ∈ nodes)
      (h : HasElement child tag nodes') : HasElement (.element outer nodes) tag nodes'

theorem Node.HasElement.isSound {node : Node} {tag : Tag} {nodes : List Node}
    (h : node.HasElement tag nodes) (hsound : node.IsSound) : (Node.element tag nodes).IsSound := by
  induction h with
  | self => exact hsound
  | inside hmem _ ih =>
      cases hsound with
      | element _ hchildren => exact ih (hchildren _ hmem)

/-! ## Names in a scope -/

namespace ExpandedName

/-- A name that is found without a qualifier: it belongs to no namespace, or to one whose first
declaration in the scope is a default one. -/
def IsBare (scope : Scope) (n : ExpandedName) : Prop :=
  ∀ uri ∈ n.uri, uri ≠ xmlUri ∧ scope.find? (·.uri == uri) = some ⟨none, uri⟩

instance (scope : Scope) (n : ExpandedName) : Decidable (n.IsBare scope) :=
  inferInstanceAs (Decidable (∀ uri ∈ n.uri, _))

/-- A name that is found behind a qualifier: the one of the first declaration of its namespace, or
the one that needs no declaration. -/
def HasQualifier (scope : Scope) (n : ExpandedName) (qualifier : Text) : Prop :=
  ∃ uri ∈ n.uri, (uri = xmlUri ∧ qualifier = "xml".toList) ∨
    (uri ≠ xmlUri ∧ scope.find? (·.uri == uri) = some ⟨some qualifier, uri⟩)

theorem isBare_or_hasQualifier {scope : Scope} {n : ExpandedName}
    (h : ∀ uri ∈ n.uri, uri = xmlUri ∨ ∃ b ∈ scope, b.uri = uri) :
    n.IsBare scope ∨ ∃ qualifier, n.HasQualifier scope qualifier := by
  obtain ⟨uri?, name⟩ := n
  cases uri? with
  | none => exact .inl nofun
  | some uri =>
      by_cases hxml : uri = xmlUri
      · exact .inr ⟨"xml", uri, rfl, .inl ⟨hxml, rfl⟩⟩
      · obtain ⟨b, hmem, hb⟩ := (h uri rfl).resolve_left hxml
        obtain ⟨⟨qualifier?, uri'⟩, hfind⟩ : ∃ first, scope.find? (·.uri == uri) = some first := by
          rw [← Option.isSome_iff_exists, List.find?_isSome]
          exact ⟨b, hmem, beq_iff_eq.mpr hb⟩
        obtain rfl : uri' = uri := by simpa using List.find?_some hfind
        cases qualifier? with
        | none => exact .inl fun other hother => Option.some.inj hother ▸ ⟨hxml, hfind⟩
        | some qualifier => exact .inr ⟨qualifier, uri', rfl, .inr ⟨hxml, hfind⟩⟩

theorem IsBare.qualified_eq {scope : Scope} {n : ExpandedName} (h : n.IsBare scope) :
    n.qualified scope = n.name := by
  obtain ⟨uri?, name⟩ := n
  cases uri? with
  | none => rfl
  | some uri =>
      obtain ⟨hxml, hfind⟩ := h uri rfl
      rw [qualified, Option.bind_some, Scope.qualifier?, if_neg hxml, hfind]
      rfl

section Qualifier

variable {scope : Scope} {n : ExpandedName} {qualifier : Text} (h : n.HasQualifier scope qualifier)

include h

/-- A qualifier other than the one that needs no declaration is declared. -/
theorem HasQualifier.cases :
    qualifier = "xml".toList ∨ ∃ b ∈ scope, b.qualifier = some qualifier := by
  obtain ⟨uri, -, ⟨-, hqualifier⟩ | ⟨-, hfind⟩⟩ := h
  · exact .inl hqualifier
  · exact .inr ⟨_, List.mem_of_find?_eq_some hfind, rfl⟩

variable (hscope : scope.IsSound)

include hscope

theorem HasQualifier.isLocalName : IsLocalName qualifier := by
  rcases h.cases with rfl | ⟨b, hmem, hb⟩
  · exact isLocalName_xml
  · exact (hscope.bindings b hmem).qualifier qualifier hb

theorem HasQualifier.qualified_eq : n.qualified scope = qualifier ++ ':' :: n.name := by
  have hempty : qualifier.isEmpty = false :=
    List.isEmpty_eq_false_iff.mpr (h.isLocalName hscope).nonempty
  have hfound : n.uri.bind (Scope.qualifier? · scope) = some qualifier := by
    obtain ⟨uri, huri, hfind⟩ := h
    rw [Option.mem_def.mp huri, Option.bind_some, Scope.qualifier?]
    rcases hfind with ⟨hxml, rfl⟩ | ⟨hxml, hfind⟩
    · exact if_pos hxml
    · rw [if_neg hxml, hfind]
      rfl
  rw [qualified, hfound]
  simp only [hempty, Bool.false_eq_true, if_false]

/-- What is found under: blanks are left out at the outer ends, not next to the colon. -/
theorem HasQualifier.trim_qualified : Text.trim (n.qualified scope) =
    Text.trimStart qualifier ++ ':' :: Text.trimEnd n.name := by
  rw [h.qualified_eq hscope, Text.trim_append_cons (by decide)]

theorem HasQualifier.colon_not_mem : ':' ∉ Text.trimStart qualifier := fun hmem =>
  (h.isLocalName hscope).colon ((List.dropWhile_suffix _).subset hmem)

/-- **A qualifier is found for one namespace.** -/
theorem HasQualifier.uri_eq {n' : ExpandedName} (h' : n'.HasQualifier scope qualifier) :
    n.uri = n'.uri := by
  have hnotXml : ∀ {uri}, scope.find? (·.uri == uri) = some ⟨some "xml".toList, uri⟩ → False :=
    fun hfind => (hscope.bindings _ (List.mem_of_find?_eq_some hfind)).notXml rfl
  obtain ⟨uri, huri, hfind⟩ := h
  obtain ⟨uri', huri', hfind'⟩ := h'
  rw [Option.mem_def.mp huri, Option.mem_def.mp huri']
  rcases hfind with ⟨rfl, rfl⟩ | ⟨-, hfind⟩
  · rcases hfind' with ⟨rfl, -⟩ | ⟨-, hfind'⟩
    · rfl
    · exact (hnotXml hfind').elim
  · rcases hfind' with ⟨-, rfl⟩ | ⟨-, hfind'⟩
    · exact (hnotXml hfind).elim
    · have hsame := hscope.unique _ (List.mem_of_find?_eq_some hfind) _
        (List.mem_of_find?_eq_some hfind') qualifier rfl rfl
      rw [(Binding.mk.inj hsame).2]

end Qualifier

end ExpandedName

/-- Names of attributes that meet in a scope. -/
inductive Clash (scope : Scope) (n n' : ExpandedName) : Prop
  /-- Neither name is found behind a qualifier, and the local names are the same. -/
  | bare (h : n.IsBare scope) (h' : n'.IsBare scope) (hname : Text.trim n.name = Text.trim n'.name)
  /-- The names differ in the blanks around them only. -/
  | qualified {qualifier qualifier' : Text} (h : n.HasQualifier scope qualifier)
      (h' : n'.HasQualifier scope qualifier')
      (hqualifier : Text.trimStart qualifier = Text.trimStart qualifier')
      (hname : Text.trimEnd n.name = Text.trimEnd n'.name)

section Names

variable {scope : Scope} {attributes : List Attribute} (hscope : scope.IsSound)
  (h : scope.Resolves attributes) {a b : Attribute} (ha : a ∈ attributes) (hb : b ∈ attributes)

include hscope h ha hb

/-- **The attributes that are found under one name.** -/
theorem clash_iff : Clash scope a.name b.name ↔
    Text.trim (a.name.qualified scope) = Text.trim (b.name.qualified scope) := by
  -- what is found behind a qualifier has a colon, and a local name has none
  have hcolon : ∀ s t : Text, ':' ∈ s ++ ':' :: t := fun s t =>
    List.mem_append_right s List.mem_cons_self
  constructor
  · rintro (⟨hbare, hbare', hname⟩ | ⟨hq, hq', hqualifier, hname⟩)
    · rwa [hbare.qualified_eq, hbare'.qualified_eq]
    · rw [hq.trim_qualified hscope, hq'.trim_qualified hscope, hqualifier, hname]
  · intro heq
    rcases ExpandedName.isBare_or_hasQualifier (h.declared a ha) with hbare | ⟨q, hq⟩ <;>
      rcases ExpandedName.isBare_or_hasQualifier (h.declared b hb) with hbare' | ⟨q', hq'⟩
    · rw [hbare.qualified_eq, hbare'.qualified_eq] at heq
      exact .bare hbare hbare' heq
    · rw [hbare.qualified_eq, hq'.trim_qualified hscope] at heq
      exact absurd (Text.trim_subset (heq ▸ hcolon _ _)) (h.names a ha).colon
    · rw [hq.trim_qualified hscope, hbare'.qualified_eq] at heq
      exact absurd (Text.trim_subset (heq ▸ hcolon _ _)) (h.names b hb).colon
    · rw [hq.trim_qualified hscope, hq'.trim_qualified hscope] at heq
      obtain ⟨hqualifier, hname⟩ :=
        Text.append_cons_inj (hq.colon_not_mem hscope) (hq'.colon_not_mem hscope) heq
      exact .qualified hq hq' hqualifier hname

/-- **Without blanks at the ends of names, attributes that meet are found without qualifiers.** -/
theorem clash_iff_isBare (hnames : ∀ a ∈ attributes, Text.trim a.name.name = a.name.name)
    (hqualifiers : ∀ b ∈ scope, ∀ q ∈ b.qualifier, Text.trim q = q) (hne : a ≠ b) :
    Clash scope a.name b.name ↔
      a.name.IsBare scope ∧ b.name.IsBare scope ∧ a.name.name = b.name.name := by
  have htrimmed : ∀ {n : ExpandedName} {q}, n.HasQualifier scope q → Text.trimStart q = q := by
    intro n q hq
    rcases hq.cases with rfl | ⟨b, hmem, hb⟩
    · decide
    · exact Text.trimStart_eq_self_of_trim (hqualifiers b hmem q hb)
  constructor
  · rintro (⟨hbare, hbare', hname⟩ | ⟨hq, hq', hqualifier, hname⟩)
    · rw [hnames a ha, hnames b hb] at hname
      exact ⟨hbare, hbare', hname⟩
    · rw [htrimmed hq, htrimmed hq'] at hqualifier
      rw [Text.trimEnd_eq_self_of_trim (hnames a ha), Text.trimEnd_eq_self_of_trim (hnames b hb)]
        at hname
      subst hqualifier
      have hsame : a.name = b.name := by
        rw [show a.name = ⟨a.name.uri, a.name.name⟩ from rfl, hq.uri_eq hscope hq', hname]
      exact absurd (List.inj_on_of_nodup_map h.distinct ha hb hsame) hne
  · rintro ⟨hbare, hbare', hname⟩
    exact .bare hbare hbare' (congrArg Text.trim hname)

end Names

/-! ## Values of elements -/

namespace Record

theorem attributes_toJson (r : Record) :
    r.toJson.asObject?.bind (Assoc.get? "attributes".toList) =
      some (.obj (Assoc.ofList (r.attributes.mapValues Json.str))) := by
  obtain ⟨name, value, attributes, hasChildren, children⟩ := r
  rw [toJson]
  rfl

/-- The attributes of a tag as they are found in its value, each with its name there. -/
def foundAttributes (tag : Tag) : Assoc Text :=
  tag.attributes.map fun a => (Text.trim (a.name.qualified tag.scope), Text.trim a.value)

theorem attributesOf_eq_iff {tag : Tag} :
    attributesOf tag = foundAttributes tag ↔ (Assoc.keys (foundAttributes tag)).Nodup :=
  ⟨fun h => h ▸ nodup_attributesOf tag, Assoc.ofList_of_nodup⟩

/-- An attribute is lost unless all of them have names of their own. -/
theorem length_attributesOf_lt {tag : Tag} (h : ¬ (Assoc.keys (foundAttributes tag)).Nodup) :
    (attributesOf tag).length < tag.attributes.length := by
  by_contra hle
  have hlength : (foundAttributes tag).length = tag.attributes.length := List.length_map _
  exact h (attributesOf_eq_iff.mp (Assoc.ofList_of_length_le (hlength ▸ Nat.le_of_not_lt hle)))

theorem nodup_foundAttributes_iff {tag : Tag} (h : tag.IsSound) :
    (Assoc.keys (foundAttributes tag)).Nodup ↔
      tag.attributes.Pairwise fun a b => ¬ Clash tag.scope a.name b.name := by
  rw [Assoc.keys, foundAttributes, List.map_map, List.Nodup, List.pairwise_map]
  exact List.Pairwise.iff_of_mem fun ha hb => not_congr (clash_iff h.scope h.attributes ha hb).symm

end Record

/-- **Every attribute of a document is in its value, unless it meets another one.** In the value of
an element whose attributes do not meet, every attribute has an entry, in document order, with its
own value but for the blanks around it. When two of them meet, there are fewer entries than
attributes. Attributes whose names have no blanks at their ends meet exactly if they have the same
local name and both are found without a qualifier. -/
theorem attributes_kept_unless_clash {t : Text} {root : Tag} {content : List Node}
    (hread : Tree.read? (Text.trimStart t) = some (root, content)) :
    read? t = some (Record.ofElement root content).toJson ∧
    ∀ tag nodes, (Node.element root content).HasElement tag nodes → ∃ entries : Assoc Text,
      (Record.ofElement tag nodes).toJson.asObject?.bind (Assoc.get? "attributes".toList) =
        some (.obj (entries.mapValues Json.str)) ∧
      (tag.attributes.Pairwise (fun a b => ¬ Clash tag.scope a.name b.name) →
        entries = tag.attributes.map fun a =>
          (Text.trim (a.name.qualified tag.scope), Text.trim a.value)) ∧
      (¬ tag.attributes.Pairwise (fun a b => ¬ Clash tag.scope a.name b.name) →
        entries.length < tag.attributes.length) ∧
      ((∀ a ∈ tag.attributes, Text.trim a.name.name = a.name.name) →
        (∀ b ∈ tag.scope, ∀ q ∈ b.qualifier, Text.trim q = q) →
        ∀ a ∈ tag.attributes, ∀ b ∈ tag.attributes, a ≠ b →
          (Clash tag.scope a.name b.name ↔
            a.name.IsBare tag.scope ∧ b.name.IsBare tag.scope ∧ a.name.name = b.name.name)) := by
  have hroot := Tree.isSound_of_read? hread
  refine ⟨by rw [read?, hread]; rfl, fun tag nodes helement => ?_⟩
  cases helement.isSound hroot with
  | element htag _ =>
      have hnodup := Record.nodup_foundAttributes_iff htag
      refine ⟨Record.attributesOf tag, ?_, fun hapart => ?_, fun hmeet => ?_,
        fun hnames hqualifiers a ha b hb hne => ?_⟩
      · rw [Record.attributes_toJson, Record.attributes_ofElement,
          Assoc.ofList_mapValues (Record.nodup_attributesOf tag)]
      · exact Record.attributesOf_eq_iff.mpr (hnodup.mpr hapart)
      · exact Record.length_attributesOf_lt (mt hnodup.mp hmeet)
      · exact clash_iff_isBare htag.scope htag.attributes ha hb hnames hqualifiers hne

/-- Three attributes with one local name, and two more in an element that makes one namespace the
default and declares another one under the qualifier of the first. -/
theorem shadowed_attributes_kept :
    let raw : Text := "<r xmlns:p='u' xmlns:q='v' p:x='1' q:x=' 2 ' x='3'>" ++
      "<s xmlns='u' xmlns:p='v' p:x='4' x='5'/></r>"
    let root : Tag := ⟨⟨none, "r"⟩, [⟨some "p", "u"⟩, ⟨some "q", "v"⟩],
      [⟨⟨some "u", "x"⟩, "1"⟩, ⟨⟨some "v", "x"⟩, " 2 "⟩, ⟨⟨none, "x"⟩, "3"⟩]⟩
    let tag : Tag := ⟨⟨some "u", "s"⟩, [⟨none, "u"⟩, ⟨some "p", "v"⟩, ⟨some "q", "v"⟩],
      [⟨⟨some "v", "x"⟩, "4"⟩, ⟨⟨none, "x"⟩, "5"⟩]⟩
    let content : List Node := [.element tag []]
    Tree.read? (Text.trimStart raw) = some (root, content) ∧
      read? raw = some (Record.ofElement root content).toJson ∧
      (Record.ofElement root content).toJson.asObject?.bind (Assoc.get? "attributes".toList) =
        some (.obj [("p:x", .str "1"), ("q:x", .str "2"), ("x", .str "3")]) ∧
      (Record.ofElement tag []).toJson.asObject?.bind (Assoc.get? "attributes".toList) =
        some (.obj [("p:x", .str "4"), ("x", .str "5")]) := by
  intro raw root tag content
  have hread : Tree.read? (Text.trimStart raw) = some (root, content) := by decide +kernel
  obtain ⟨hvalue, hkept⟩ := attributes_kept_unless_clash hread
  obtain ⟨entries, hentries, hall, -⟩ := hkept root content .self
  obtain ⟨entries', hentries', hall', -⟩ := hkept tag [] (.inside List.mem_cons_self .self)
  have hroot : root.attributes.Pairwise fun a b => ¬ Clash root.scope a.name b.name := by
    cases Tree.isSound_of_read? hread with
    | element hroot _ => exact (Record.nodup_foundAttributes_iff hroot).mp (by decide)
  have htag : tag.attributes.Pairwise fun a b => ¬ Clash tag.scope a.name b.name := by
    cases Tree.isSound_of_read? hread with
    | element _ hcontent =>
        cases hcontent _ List.mem_cons_self with
        | element htag _ => exact (Record.nodup_foundAttributes_iff htag).mp (by decide)
  rw [hall hroot] at hentries
  rw [hall' htag] at hentries'
  exact ⟨hread, hvalue, hentries, hentries'⟩

/-- A namespace with a default declaration before the one with a qualifier: its attribute meets the
one of no namespace, and one of them is lost. -/
theorem attribute_lost :
    let raw : Text := "<r xmlns=\"u\" xmlns:p=\"u\" p:x=\"1\" x=\"2\"/>"
    let root : Tag := ⟨⟨some "u", "r"⟩, [⟨none, "u"⟩, ⟨some "p", "u"⟩],
      [⟨⟨some "u", "x"⟩, "1"⟩, ⟨⟨none, "x"⟩, "2"⟩]⟩
    Tree.read? (Text.trimStart raw) = some (root, []) ∧
      (∀ a ∈ root.attributes, a.name.IsBare root.scope) ∧
      read? raw = some (Record.ofElement root []).toJson ∧
      (Record.ofElement root []).toJson.asObject?.bind (Assoc.get? "attributes".toList) =
        some (.obj [("x", .str "2")]) := by
  intro raw root
  have hread : Tree.read? (Text.trimStart raw) = some (root, []) := by decide +kernel
  refine ⟨hread, by decide, by rw [read?, hread]; rfl, ?_⟩
  rw [Record.attributes_toJson, Record.attributes_ofElement]
  decide +kernel

end HttpExchange.Xml
