import HttpExchange.Proofs.Xml.Record

/-!
# The events of what is written

A record is written without references but the predefined ones, without comments
and without namespace declarations of its own, so reading it meets the tags, the
attributes and the texts of its elements and nothing else. Only an attribute can
stop a reader: its name may have been trimmed to what is no name, and its value
may hold what a document may not hold.

`Reads` puts the steps of a reader together; every step leaves less to be read, so
the length of a text is fuel enough.

## Main definitions

* `Record.IsReadable` — the records whose attributes can be read.
* `Record.events` — what a reader meets of a record.
* `Reads` — some steps of a reader.

## Main results

* `reads_written` — a reader meets the events of a record that was written.
* `isReadable_of_readAll?` — a reader that does not stop has met a readable record.
* `ofDocument?_written` — the events of a document with nothing but the record.
-/

namespace HttpExchange.Xml

/-! ## What can be read again -/

/-- The name of an attribute, taken apart. -/
def attributeQName (name : Text) : QName := (QName.ofText? name).getD ⟨[], name⟩

namespace Record

/-- An attribute that is read where it was written: its name is a name, and a document may hold its
value. -/
structure IsReadableAttribute (a : Text × Text) : Prop where
  name : QName.ofText? a.1 = some (attributeQName a.1)
  value : ∀ c ∈ a.2, isChar c = true

/-- The records whose attributes are read where they were written. -/
inductive IsReadable : Record → Prop
  | mk {name : Text} {value : Option Text} {attributes : Assoc Text} {hasChildren : Bool}
      {children : List (Option Text × Record)}
      (hattributes : ∀ a ∈ attributes, IsReadableAttribute a)
      (hchildren : ∀ child ∈ children, IsReadable child.2) :
      IsReadable (.mk name value attributes hasChildren children)

end Record

/-! ## Escaped text -/

/-- The characters that are written as references. -/
def escaped : Text := "&<>\"'"

theorem escape_of_not_mem {c : Char} (h : c ∉ escaped) : escape c = [c] := by
  unfold escape
  split
  · exact absurd (by decide) h
  · exact absurd (by decide) h
  · exact absurd (by decide) h
  · exact absurd (by decide) h
  · exact absurd (by decide) h
  · rfl

/-- A character that is written stands for itself, or it belongs to a reference. -/
theorem mem_escape {c d : Char} (h : c ∈ escape d) :
    (c = d ∧ d ∉ escaped) ∨ c ∈ "&;ampltgquos".toList := by
  by_cases hd : d ∈ escaped
  · have hreference : ∀ d ∈ escaped, ∀ c ∈ escape d, c ∈ "&;ampltgquos".toList := by decide
    exact .inr (hreference d hd c h)
  · rw [escape_of_not_mem hd] at h
    exact .inl ⟨List.mem_singleton.mp h, hd⟩

theorem mem_escapeText {c : Char} {t : Text} (h : c ∈ escapeText t) :
    (c ∈ t ∧ c ∉ escaped) ∨ c ∈ "&;ampltgquos".toList := by
  obtain ⟨d, hd, hc⟩ := List.mem_flatMap.mp h
  exact (mem_escape hc).imp_left fun ⟨heq, hplain⟩ => heq ▸ ⟨hd, hplain⟩

/-- Markup and quotes do not occur in what is written. -/
theorem not_mem_escapeText {c : Char} (hspecial : c ∈ "<>\"'".toList) (t : Text) :
    c ∉ escapeText t := by
  have hwritten : ∀ c ∈ "<>\"'".toList, c ∈ escaped ∧ c ∉ "&;ampltgquos".toList := by decide
  intro hmem
  rcases mem_escapeText hmem with ⟨-, hplain⟩ | hmem
  · exact hplain (hwritten c hspecial).1
  · exact (hwritten c hspecial).2 hmem

/-- A document may hold what is written of a text when it may hold the text. -/
theorem all_isChar_escapeText (t : Text) : (escapeText t).all isChar = t.all isChar := by
  rw [escapeText, List.all_flatMap]
  refine congrArg t.all (funext fun c => ?_)
  by_cases hc : c ∈ escaped
  · exact (by decide : ∀ c ∈ escaped, (escape c).all isChar = isChar c) c hc
  · rw [escape_of_not_mem hc]
    exact Bool.and_true _

theorem escape_ne_nil (c : Char) : escape c ≠ [] := by
  by_cases hc : c ∈ escaped
  · exact (by decide : ∀ c ∈ escaped, escape c ≠ []) c hc
  · rw [escape_of_not_mem hc]
    exact List.cons_ne_nil _ _

theorem escapeText_ne_nil {t : Text} (h : t ≠ []) : escapeText t ≠ [] := by
  obtain ⟨c, t, rfl⟩ := List.exists_cons_of_ne_nil h
  rw [escapeText, List.flatMap_cons]
  exact List.append_ne_nil_of_left_ne_nil (escape_ne_nil c) _

/-! ## Steps of a reader -/

/-- Some steps of a reader, each of which meets an event and leaves less to be read. -/
inductive Reads : Reader → Text → List Event → Reader → Text → Prop
  | refl (r : Reader) (t : Text) : Reads r t [] r t
  | step {r r' r'' : Reader} {t t' t'' : Text} {e : Event} {es : List Event}
      (hopen : r.isDone = false) (hstep : r.step? t = some (some e, r', t'))
      (hless : t'.length < t.length) (hrest : Reads r' t' es r'' t'') :
      Reads r t (e :: es) r'' t''

theorem Reads.one {r r' : Reader} {t t' : Text} {e : Event} (hopen : r.isDone = false)
    (hstep : r.step? t = some (some e, r', t')) (hless : t'.length < t.length) :
    Reads r t [e] r' t' := .step hopen hstep hless (.refl r' t')

theorem Reads.trans {r r' r'' : Reader} {t t' t'' : Text} {es es' : List Event}
    (h : Reads r t es r' t') (h' : Reads r' t' es' r'' t'') : Reads r t (es ++ es') r'' t'' := by
  induction h with
  | refl => exact h'
  | step hopen hstep hless _ ih => exact .step hopen hstep hless (ih h')

/-- A reader that reads everything takes its first step. -/
theorem exists_step?_of_readAll? {fuel : Nat} {r : Reader} {t : Text} {x : List Event × Text}
    (hopen : r.isDone = false) (hne : t ≠ []) (h : Event.readAll? (fuel + 1) r t = some x) :
    ∃ e r' t' x', r.step? t = some (e, r', t') ∧ Event.readAll? fuel r' t' = some x' := by
  have hempty : t.isEmpty = false := List.isEmpty_eq_false_iff.mpr hne
  rw [Event.readAll?, hopen, hempty] at h
  simp only [Bool.or_self, Bool.false_eq_true, if_false, Option.bind_eq_bind,
    Option.bind_eq_some_iff] at h
  obtain ⟨⟨e, r', t'⟩, hstep, x', hrest, -⟩ := h
  exact ⟨e, r', t', x', hstep, hrest⟩

theorem ne_nil_of_length_lt {t t' : Text} (h : t'.length < t.length) : t ≠ [] :=
  List.ne_nil_of_length_pos (Nat.zero_lt_of_lt h)

/-- A reader that reads everything reads what follows some of its steps. -/
theorem Reads.exists_readAll? {r r' : Reader} {t t' : Text} {es : List Event}
    (h : Reads r t es r' t') {fuel : Nat} {x : List Event × Text}
    (hread : Event.readAll? fuel r t = some x) :
    ∃ fuel' x', Event.readAll? fuel' r' t' = some x' := by
  induction h generalizing fuel x with
  | refl => exact ⟨fuel, x, hread⟩
  | step hopen hstep hless _ ih =>
      cases fuel with
      | zero => cases hread
      | succ fuel =>
          obtain ⟨e, r', t', x', hstep', hrest⟩ :=
            exists_step?_of_readAll? hopen (ne_nil_of_length_lt hless) hread
          obtain ⟨-, rfl, rfl⟩ : _ ∧ _ ∧ _ := by
            simpa only [Option.some.injEq, Prod.mk.injEq] using hstep.symm.trans hstep'
          exact ih hrest

/-- **Steps that end where the reader is done** are all that it reads. -/
theorem Reads.readAll? {r r' : Reader} {t t' : Text} {es : List Event} (h : Reads r t es r' t')
    (hdone : r'.isDone = true) {fuel : Nat} (hfuel : t.length < fuel) :
    Event.readAll? fuel r t = some (es, t') := by
  induction h generalizing fuel with
  | refl r t =>
      obtain ⟨fuel, rfl⟩ := Nat.exists_eq_add_one_of_ne_zero (Nat.ne_zero_of_lt hfuel)
      rw [Event.readAll?, hdone]
      rfl
  | @step r r' r'' t t' t'' e es hopen hstep hless _ ih =>
      obtain ⟨fuel, rfl⟩ := Nat.exists_eq_add_one_of_ne_zero (Nat.ne_zero_of_lt hfuel)
      have hempty : t.isEmpty = false :=
        List.isEmpty_eq_false_iff.mpr (ne_nil_of_length_lt hless)
      rw [Event.readAll?, hopen, hempty, hstep]
      simp only [Bool.or_self, Bool.false_eq_true, if_false, Option.bind_eq_bind,
        Option.bind_some, ih hdone (Nat.lt_of_lt_of_le hless (Nat.le_of_lt_succ hfuel))]
      rfl

/-! ## What each piece of a record is read as -/

theorem skipSpaces_cons {c : Char} (h : isSpace c = false) (rest : Text) :
    skipSpaces (c :: rest) = c :: rest :=
  List.dropWhile_cons_of_neg (Bool.eq_false_iff.mp h)

/-- An attribute is read where it was written if its name and its value can be read. -/
theorem readAttribute?_written {name : Text} (hname : ∀ c ∈ name, isNameChar c = true)
    (value rest : Text) :
    readAttribute? (name ++ '=' :: '"' :: (escapeText value ++ '"' :: rest)) =
      (QName.ofText? name).bind fun q =>
        if value.all isChar then some ((q, escapeText value), rest) else none := by
  have hread : readQName? (name ++ '=' :: '"' :: (escapeText value ++ '"' :: rest)) =
      (QName.ofText? name).map (·, '=' :: '"' :: (escapeText value ++ '"' :: rest)) := by
    rw [readQName?, Text.takeWhile_append_cons hname (by decide),
      Text.dropWhile_append_cons hname (by decide)]
  have hequals :
      Text.afterPrefix? "=" (skipSpaces ('=' :: '"' :: (escapeText value ++ '"' :: rest))) =
        some ('"' :: (escapeText value ++ '"' :: rest)) := rfl
  have hquoted : readQuoted? (skipSpaces ('"' :: (escapeText value ++ '"' :: rest))) =
      some (escapeText value, rest) :=
    Text.splitFirst_append (not_mem_escapeText (by decide) value) rest
  have hall : ((escapeText value).all fun c => isChar c && c != '<') = value.all isChar := by
    rw [← all_isChar_escapeText, Bool.eq_iff_iff, List.all_eq_true, List.all_eq_true]
    refine forall₂_congr fun c hc => ?_
    have hne : c ≠ '<' := fun heq => not_mem_escapeText (by decide) value (heq ▸ hc)
    rw [bne_iff_ne.mpr hne, Bool.and_true]
  rw [readAttribute?, hread]
  cases QName.ofText? name with
  | none => rfl
  | some q =>
      simp only [Option.map_some, Option.bind_eq_bind, Option.bind_some, hequals, hquoted, hall]

section Steps

variable {depth : Nat}

/-- Inside a start tag, an attribute that was written is read or nothing is. -/
theorem step?_attribute {a : Text × Text} (hname : ∀ c ∈ a.1, isNameChar c = true) (rest : Text) :
    Reader.step? ⟨true, depth⟩ (Record.writtenAttribute a ++ rest) =
      (QName.ofText? a.1).bind fun q =>
        if a.2.all isChar then some (some (.attr q (escapeText a.2)), ⟨true, depth⟩, rest)
        else none := by
  have hshape : Record.writtenAttribute a ++ rest =
      ' ' :: (a.1 ++ '=' :: '"' :: (escapeText a.2 ++ '"' :: rest)) := by
    simp [Record.writtenAttribute]
  -- what comes behind the blank is neither another blank nor the end of the tag
  obtain ⟨c, behind, hcons, hc⟩ : ∃ c behind,
      a.1 ++ '=' :: '"' :: (escapeText a.2 ++ '"' :: rest) = c :: behind ∧
        (isNameChar c = true ∨ c = '=') := by
    cases hempty : a.1 with
    | nil => exact ⟨'=', _, rfl, .inr rfl⟩
    | cons c name => exact ⟨c, _, rfl, .inl (hname c (hempty ▸ List.mem_cons_self))⟩
  have hother : ∀ d, isNameChar d = false → d ≠ '=' → c ≠ d := by
    rintro d hd hequals rfl
    rcases hc with hc | hc
    · rw [hd] at hc
      cases hc
    · exact hequals hc
  have hspace : isSpace c = false := by
    rcases hc with hc | rfl
    · exact isSpace_of_isNameChar hc
    · decide
  have hskip : skipSpaces (' ' :: c :: behind) = c :: behind :=
    (List.dropWhile_cons_of_pos rfl).trans (skipSpaces_cons hspace behind)
  have hblank : skipSpaces1? (' ' :: c :: behind) = some (c :: behind) :=
    congrArg some (skipSpaces_cons hspace behind)
  rw [hshape, Reader.step?, if_pos rfl, Reader.stepTag?, hcons, hskip]
  split
  · next heq => exact absurd (List.cons.inj heq).1 (hother '/' (by decide) (by decide))
  · next heq => exact absurd (List.cons.inj heq).1 (hother '>' (by decide) (by decide))
  · rw [hblank, ← hcons, readAttribute?_written hname]
    cases QName.ofText? a.1 with
    | none => rfl
    | some q => cases a.2.all isChar <;> rfl

theorem length_lt_writtenAttribute (a : Text × Text) (rest : Text) :
    rest.length < (Record.writtenAttribute a ++ rest).length := by
  simp only [Record.writtenAttribute, List.length_append, List.length_cons]
  omega

theorem reads_attribute {a : Text × Text} (hname : ∀ c ∈ a.1, isNameChar c = true)
    (h : Record.IsReadableAttribute a) (rest : Text) :
    Reads ⟨true, depth⟩ (Record.writtenAttribute a ++ rest)
      [.attr (attributeQName a.1) (escapeText a.2)] ⟨true, depth⟩ rest := by
  refine .one rfl ?_ (length_lt_writtenAttribute a rest)
  rw [step?_attribute hname, h.name, Option.bind_some, if_pos (List.all_eq_true.mpr h.value)]

/-- An attribute that is read can be read. -/
theorem isReadableAttribute_of_step? {a : Text × Text} (hname : ∀ c ∈ a.1, isNameChar c = true)
    {rest : Text} {x : Option Event × Reader × Text}
    (h : Reader.step? ⟨true, depth⟩ (Record.writtenAttribute a ++ rest) = some x) :
    Record.IsReadableAttribute a := by
  rw [step?_attribute hname, Option.bind_eq_some_iff] at h
  obtain ⟨q, hq, h⟩ := h
  rw [Option.ite_none_right_eq_some] at h
  refine ⟨?_, List.all_eq_true.mp h.1⟩
  rw [attributeQName, hq]
  rfl

theorem reads_tagEnd (rest : Text) :
    Reads ⟨true, depth⟩ ('>' :: rest) [.tagEnd false] ⟨false, depth + 1⟩ rest :=
  .one rfl rfl (Nat.lt_succ_self _)

theorem reads_text {t : Text} (hne : t ≠ []) (hchars : ∀ c ∈ t, isChar c = true) (rest : Text) :
    Reads ⟨false, depth + 1⟩ (escapeText t ++ '<' :: rest) [.text (escapeText t)]
      ⟨false, depth + 1⟩ ('<' :: rest) := by
  have hmarkup : ∀ c ∈ escapeText t, (c != '<') = true := fun c hc =>
    bne_iff_ne.mpr fun heq => not_mem_escapeText (by decide) t (heq ▸ hc)
  obtain ⟨c, run, hcons⟩ := List.exists_cons_of_ne_nil (escapeText_ne_nil hne)
  have hc : c ≠ '<' := bne_iff_ne.mp (hmarkup c (hcons ▸ List.mem_cons_self))
  have hphrase : Text.hasPhrase (escapeText t) "]]>" = false :=
    Text.hasPhrase_of_not_mem (c := '>') (by decide) (not_mem_escapeText (by decide) t)
  have hall : (escapeText t).all isChar = true :=
    (all_isChar_escapeText t).trans (List.all_eq_true.mpr hchars)
  refine .one rfl ?_ ?_
  · have hstep : Reader.stepText? ⟨false, depth + 1⟩ (escapeText t ++ '<' :: rest) =
        some (.text (escapeText t), ⟨false, depth + 1⟩, '<' :: rest) := by
      rw [Reader.stepText?, Text.takeWhile_append_cons hmarkup (by decide),
        Text.dropWhile_append_cons hmarkup (by decide), hall, hphrase]
      rfl
    have hfirst : ∀ rest', escapeText t ++ '<' :: rest ≠ '<' :: rest' := by
      intro rest' heq
      rw [hcons] at heq
      exact hc (List.cons.inj heq).1
    rw [Reader.step?, if_neg Bool.false_ne_true, Reader.stepContent?, hstep]
    · rfl
    · exact fun rest' heq => hfirst _ heq
    · exact fun rest' heq => hfirst _ heq
    · exact fun rest' heq => hfirst _ heq
    · exact fun rest' heq => hfirst _ heq
  · rw [hcons]
    simp only [List.length_append, List.length_cons]
    omega

theorem reads_start {name rest : Text} (h : IsLocalName name)
    (hrest : ∀ c ∈ rest.head?, isNameChar c = false) :
    Reads ⟨false, depth + 1⟩ ('<' :: name ++ rest) [.start ⟨[], name⟩] ⟨true, depth + 1⟩ rest := by
  obtain ⟨c, tail, rfl, hstart⟩ := h.exists_cons
  have hread := readQName?_append h.chars (QName.ofText?_of_isLocalName h) hrest
  have hne : ∀ {d : Char}, isNameStart d = false → ∀ rest', c :: tail ++ rest ≠ d :: rest' :=
    fun hd rest' heq => ne_of_isNameStart hstart hd (List.cons.inj heq).1
  refine .one rfl ?_ ?_
  · rw [Reader.step?, if_neg Bool.false_ne_true, List.cons_append, Reader.stepContent?, hread]
    · rfl
    · exact hne (by decide)
    · exact hne (by decide)
    · exact hne (by decide)
  · simp only [List.length_append, List.length_cons]
    omega

theorem reads_close {name : Text} (h : IsLocalName name) (rest : Text) :
    Reads ⟨false, depth + 1⟩ ("</".toList ++ name ++ '>' :: rest) [.close ⟨[], name⟩]
      ⟨false, depth⟩ rest := by
  have hread : readQName? (name ++ '>' :: rest) = some (⟨[], name⟩, '>' :: rest) :=
    readQName?_append h.chars (QName.ofText?_of_isLocalName h) fun _ hc =>
      Option.some.inj hc ▸ by decide
  have hstep : Reader.stepClose? ⟨false, depth + 1⟩ (name ++ '>' :: rest) =
      some (.close ⟨[], name⟩, ⟨false, depth⟩, rest) := by
    rw [Reader.stepClose?, hread]
    rfl
  have hshape : "</".toList ++ name ++ '>' :: rest = '<' :: '/' :: (name ++ '>' :: rest) := rfl
  refine .one rfl ?_ ?_
  · rw [hshape, Reader.step?, if_neg Bool.false_ne_true, Reader.stepContent?, hstep]
    rfl
  · rw [hshape]
    simp only [List.length_append, List.length_cons]
    omega

end Steps

/-! ## What a record is read as -/

namespace Record

/-- What is written behind the name of the start tag. -/
def afterName : Record → Text
  | .mk name value attributes _ children =>
    attributes.flatMap writtenAttribute ++
      '>' :: (escapeText (value.getD []) ++ writtenAll children) ++ "</".toList ++ name ++ ['>']

theorem written_eq (r : Record) : r.written = '<' :: r.name ++ r.afterName := by
  obtain ⟨name, value, attributes, hasChildren, children⟩ := r
  simp [written, afterName, Record.name]

/-- A name ends where the attributes begin. -/
theorem head?_afterName (r : Record) (rest : Text) :
    ∀ c ∈ (r.afterName ++ rest).head?, isNameChar c = false := by
  obtain ⟨name, value, attributes, hasChildren, children⟩ := r
  cases attributes with
  | nil => exact fun c hc => Option.some.inj hc ▸ by decide
  | cons a attributes => exact fun c hc => Option.some.inj hc ▸ by decide

/-- The event of an attribute. -/
def attributeEvent (a : Text × Text) : Event := .attr (attributeQName a.1) (escapeText a.2)

/-- The event of a text, if there is one. -/
def textEvents : Option Text → List Event
  | none => []
  | some t => [.text (escapeText t)]

mutual

/-- What a reader meets behind the name of the start tag. -/
def events : Record → List Event
  | .mk name value attributes _ children =>
    attributes.map attributeEvent ++
      .tagEnd false :: (textEvents value ++ (eventsOfAll children ++ [.close ⟨[], name⟩]))

/-- What a reader meets of the children of a record. -/
def eventsOfAll : List (Option Text × Record) → List Event
  | [] => []
  | (_, child) :: rest => .start ⟨[], child.name⟩ :: (events child ++ eventsOfAll rest)

end

end Record

section Attributes

variable {attributes : Assoc Text} (hnames : ∀ a ∈ attributes, ∀ c ∈ a.1, isNameChar c = true)
  {depth : Nat}

include hnames

theorem reads_attributes (h : ∀ a ∈ attributes, Record.IsReadableAttribute a) (rest : Text) :
    Reads ⟨true, depth⟩ (attributes.flatMap Record.writtenAttribute ++ rest)
      (attributes.map Record.attributeEvent) ⟨true, depth⟩ rest := by
  induction attributes with
  | nil => exact .refl _ _
  | cons a attributes ih =>
      obtain ⟨hname, hnames⟩ := List.forall_mem_cons.mp hnames
      obtain ⟨ha, hrest⟩ := List.forall_mem_cons.mp h
      rw [List.flatMap_cons, List.append_assoc]
      exact (reads_attribute hname ha _).trans (ih hnames hrest)

/-- Attributes that are read can be read. -/
theorem isReadableAttribute_of_readAll? {rest : Text} {fuel : Nat} {x : List Event × Text}
    (h : Event.readAll? fuel ⟨true, depth⟩
      (attributes.flatMap Record.writtenAttribute ++ rest) = some x) :
    ∀ a ∈ attributes, Record.IsReadableAttribute a := by
  induction attributes generalizing fuel x with
  | nil => exact List.forall_mem_nil _
  | cons a attributes ih =>
      obtain ⟨hname, hnames⟩ := List.forall_mem_cons.mp hnames
      rw [List.flatMap_cons, List.append_assoc] at h
      cases fuel with
      | zero => cases h
      | succ fuel =>
          obtain ⟨e, r', t', x', hstep, hrest⟩ := exists_step?_of_readAll? rfl
            (ne_nil_of_length_lt (length_lt_writtenAttribute a _)) h
          have ha := isReadableAttribute_of_step? hname hstep
          obtain ⟨fuel', x', hothers⟩ := (reads_attribute hname ha _).exists_readAll? h
          exact List.forall_mem_cons.mpr ⟨ha, ih hnames hothers⟩

end Attributes

theorem reads_value {value : Option Text} {depth : Nat} (h : ∀ t ∈ value, Record.IsValue t)
    (rest : Text) :
    Reads ⟨false, depth + 1⟩ (escapeText (value.getD []) ++ '<' :: rest) (Record.textEvents value)
      ⟨false, depth + 1⟩ ('<' :: rest) := by
  cases value with
  | none => exact .refl _ _
  | some t => exact reads_text (h t rfl).nonempty (h t rfl).chars rest

theorem reads_children {children : List (Option Text × Record)} {depth : Nat}
    (hnames : ∀ child ∈ children, IsLocalName child.2.name)
    (h : ∀ child ∈ children, ∀ rest, Reads ⟨true, depth + 1⟩ (child.2.afterName ++ rest)
      child.2.events ⟨false, depth + 1⟩ rest) (rest : Text) :
    Reads ⟨false, depth + 1⟩ (Record.writtenAll children ++ rest) (Record.eventsOfAll children)
      ⟨false, depth + 1⟩ rest := by
  induction children with
  | nil => exact .refl _ _
  | cons child children ih =>
      obtain ⟨hname, hnames⟩ := List.forall_mem_cons.mp hnames
      obtain ⟨hchild, hchildren⟩ := List.forall_mem_cons.mp h
      rw [Record.writtenAll, Record.written_eq, List.append_assoc, List.append_assoc]
      refine (reads_start hname (child.2.head?_afterName _)).trans ?_
      exact (hchild _).trans (ih hnames hchildren)

/-- Children and an end tag begin with markup. -/
theorem exists_writtenAll_append (children : List (Option Text × Record)) (rest : Text) :
    ∃ rest', Record.writtenAll children ++ '<' :: rest = '<' :: rest' := by
  cases children with
  | nil => exact ⟨rest, rfl⟩
  | cons child children =>
      rw [Record.writtenAll, Record.written_eq]
      exact ⟨_, rfl⟩

/-- What is written behind the name of an element, piece by piece. -/
theorem afterName_append (name : Text) (value : Option Text) (attributes : Assoc Text)
    (hasChildren : Bool) (children : List (Option Text × Record)) (rest : Text) :
    (Record.mk name value attributes hasChildren children).afterName ++ rest =
      attributes.flatMap Record.writtenAttribute ++ '>' :: (escapeText (value.getD []) ++
        (Record.writtenAll children ++ '<' :: '/' :: (name ++ '>' :: rest))) := by
  simp [Record.afterName]

/-- Where an element has its children, its attributes and its text have been read. -/
theorem reads_opening {name : Text} {value : Option Text} {attributes : Assoc Text}
    {hasChildren : Bool} {children : List (Option Text × Record)} {depth : Nat}
    (hnames : ∀ a ∈ attributes, ∀ c ∈ a.1, isNameChar c = true)
    (hattributes : ∀ a ∈ attributes, Record.IsReadableAttribute a)
    (hvalue : ∀ t ∈ value, Record.IsValue t) (rest : Text) :
    Reads ⟨true, depth⟩ ((Record.mk name value attributes hasChildren children).afterName ++ rest)
      (attributes.map Record.attributeEvent ++ .tagEnd false :: Record.textEvents value)
      ⟨false, depth + 1⟩ (Record.writtenAll children ++ '<' :: '/' :: (name ++ '>' :: rest)) := by
  obtain ⟨rest', hmarkup⟩ := exists_writtenAll_append children ('/' :: (name ++ '>' :: rest))
  have htext := @reads_value value depth hvalue rest'
  rw [← hmarkup] at htext
  rw [afterName_append]
  exact (reads_attributes hnames hattributes _).trans ((reads_tagEnd _).trans htext)

/-- An element is read behind its name when its attributes, its text and its children are. -/
theorem reads_element {name : Text} {value : Option Text} {attributes : Assoc Text}
    {hasChildren : Bool} {children : List (Option Text × Record)} {depth : Nat}
    (hname : IsLocalName name) (hnames : ∀ a ∈ attributes, ∀ c ∈ a.1, isNameChar c = true)
    (hattributes : ∀ a ∈ attributes, Record.IsReadableAttribute a)
    (hvalue : ∀ t ∈ value, Record.IsValue t)
    (hlocal : ∀ child ∈ children, IsLocalName child.2.name)
    (hchildren : ∀ child ∈ children, ∀ rest, Reads ⟨true, depth + 1⟩ (child.2.afterName ++ rest)
      child.2.events ⟨false, depth + 1⟩ rest) (rest : Text) :
    Reads ⟨true, depth⟩
      ((Record.mk name value attributes hasChildren children).afterName ++ rest)
      (Record.mk name value attributes hasChildren children).events ⟨false, depth⟩ rest := by
  have hevents : (Record.mk name value attributes hasChildren children).events =
      (attributes.map Record.attributeEvent ++ .tagEnd false :: Record.textEvents value) ++
        (Record.eventsOfAll children ++ [.close ⟨[], name⟩]) := by
    simp [Record.events]
  rw [hevents]
  refine (reads_opening hnames hattributes hvalue rest).trans ?_
  exact (reads_children hlocal hchildren _).trans (reads_close hname rest)

theorem Record.IsSound.isLocalName {r : Record} (h : r.IsSound) : IsLocalName r.name := by
  cases h with
  | leaf hname => exact hname
  | branch hname => exact hname

/-- **A reader meets the events of a record that was written**, whatever follows it. -/
theorem reads_written {r : Record} (h : r.IsSound) (hreadable : r.IsReadable) (depth : Nat)
    (rest : Text) : Reads ⟨true, depth⟩ (r.afterName ++ rest) r.events ⟨false, depth⟩ rest := by
  induction h generalizing depth rest with
  | leaf hname hvalue hattributes =>
      cases hreadable with
      | mk hreadable =>
          exact reads_element hname hattributes.chars hreadable hvalue (List.forall_mem_nil _)
            (List.forall_mem_nil _) rest
  | branch hname hattributes _ _ _ hsound ih =>
      cases hreadable with
      | mk hreadable hchildren =>
          refine reads_element hname hattributes.chars hreadable (fun t hmem => by cases hmem)
            (fun child hmem => (hsound child hmem).isLocalName) (fun child hmem rest => ?_) rest
          exact ih child hmem (hchildren child hmem) (depth + 1) rest

theorem isReadable_of_children {children : List (Option Text × Record)} {depth : Nat}
    (hsound : ∀ child ∈ children, child.2.IsSound)
    (h : ∀ child ∈ children, ∀ fuel rest x,
      Event.readAll? fuel ⟨true, depth + 1⟩ (child.2.afterName ++ rest) = some x →
        child.2.IsReadable)
    {fuel : Nat} {rest : Text} {x : List Event × Text}
    (hread : Event.readAll? fuel ⟨false, depth + 1⟩ (Record.writtenAll children ++ rest) = some x) :
    ∀ child ∈ children, child.2.IsReadable := by
  induction children generalizing fuel x with
  | nil => exact List.forall_mem_nil _
  | cons child children ih =>
      obtain ⟨hsound, hsounds⟩ := List.forall_mem_cons.mp hsound
      obtain ⟨hchild, hchildren⟩ := List.forall_mem_cons.mp h
      rw [Record.writtenAll, Record.written_eq, List.append_assoc, List.append_assoc] at hread
      obtain ⟨fuel', x', hinside⟩ :=
        (reads_start hsound.isLocalName (child.2.head?_afterName _)).exists_readAll? hread
      have hreadable := hchild fuel' _ x' hinside
      obtain ⟨fuel'', x'', hothers⟩ :=
        (reads_written hsound hreadable (depth + 1) _).exists_readAll? hinside
      exact List.forall_mem_cons.mpr ⟨hreadable, ih hsounds hchildren hothers⟩

/-- **A record that is read where it was written can be read.** -/
theorem isReadable_of_readAll? {r : Record} (h : r.IsSound) {depth fuel : Nat} {rest : Text}
    {x : List Event × Text}
    (hread : Event.readAll? fuel ⟨true, depth⟩ (r.afterName ++ rest) = some x) : r.IsReadable := by
  induction h generalizing depth fuel rest x with
  | leaf hname hvalue hattributes =>
      rw [afterName_append] at hread
      exact .mk (isReadableAttribute_of_readAll? hattributes.chars hread) (List.forall_mem_nil _)
  | branch hname hattributes _ _ _ hsound ih =>
      have hinside := hread
      rw [afterName_append] at hinside
      have hreadable := isReadableAttribute_of_readAll? hattributes.chars hinside
      obtain ⟨fuel', x', hchildren⟩ := (reads_opening hattributes.chars hreadable
        (fun t hmem => by cases hmem) rest).exists_readAll? hread
      exact .mk hreadable (isReadable_of_children hsound
        (fun child hmem fuel rest x => ih child hmem) hchildren)

/-! ## Documents -/

section Tag

variable {c : Char} (h : isNameStart c = true) (rest : Text)

include h

/-- What begins with a tag begins with no other markup. -/
theorem startsWith_tag {d : Char} (hd : isNameStart d = false) (phrase : Text) :
    Text.startsWith ('<' :: c :: rest) ('<' :: d :: phrase) = false := by
  have hne : (d == c) = false := beq_eq_false_iff_ne.mpr (ne_of_isNameStart h hd).symm
  rw [Text.startsWith, List.isPrefixOf_cons_cons, List.isPrefixOf_cons_cons, hne]
  rfl

theorem skipMisc?_tag (fuel : Nat) :
    skipMisc? (fuel + 1) ('<' :: c :: rest) = some ('<' :: c :: rest) := by
  have hcomment : Text.startsWith ('<' :: c :: rest) "<!--" = false :=
    startsWith_tag h rest (by decide) _
  have hinstruction : Text.startsWith ('<' :: c :: rest) "<?" = false :=
    startsWith_tag h rest (by decide) _
  rw [skipMisc?, skipSpaces_cons (by decide)]
  simp only [hcomment, hinstruction, Bool.false_eq_true, if_false]

/-- A text that begins with a tag has no prolog. -/
theorem readProlog?_tag : readProlog? ('<' :: c :: rest) = some ([], '<' :: c :: rest) := by
  have hmark : Text.afterPrefix? ['\uFEFF'] ('<' :: c :: rest) = none :=
    Text.afterPrefix?_cons_of_ne (by decide) _ _
  have hdeclaration : Text.startsWith ('<' :: c :: rest) "<?xml " = false :=
    startsWith_tag h rest (by decide) _
  have htype : Text.afterPrefix? "<!DOCTYPE" ('<' :: c :: rest) = none := by
    refine (if_pos rfl).trans ?_
    exact Text.afterPrefix?_cons_of_ne (ne_of_isNameStart h (by decide)).symm _ _
  rw [readProlog?, hmark, Option.getD_none, skipDeclaration?, hdeclaration]
  simp only [Bool.false_eq_true, if_false, Option.bind_eq_bind, Option.bind_some,
    skipMisc?_tag h rest, readDocumentType?, htype]

end Tag

section Written

variable {r : Record} (h : r.IsSound)

include h

theorem readQName?_afterName :
    readQName? (r.name ++ r.afterName) = some (⟨[], r.name⟩, r.afterName) := by
  have hrest := r.head?_afterName []
  rw [List.append_nil] at hrest
  exact readQName?_append h.isLocalName.chars (QName.ofText?_of_isLocalName h.isLocalName) hrest

theorem readProlog?_written :
    readProlog? r.written = some ([], '<' :: (r.name ++ r.afterName)) := by
  obtain ⟨c, name, hname, hstart⟩ := h.isLocalName.exists_cons
  rw [Record.written_eq, hname]
  exact readProlog?_tag hstart _

/-- **The events of a document with nothing but a record.** -/
theorem ofDocument?_written (hreadable : r.IsReadable) :
    Event.ofDocument? r.written = some ([], .start ⟨[], r.name⟩ :: r.events) := by
  have hevents := (reads_written h hreadable 0 []).readAll? rfl (Nat.lt_succ_self _)
  rw [List.append_nil] at hevents
  rw [Event.ofDocument?, readProlog?_written h]
  simp only [Option.bind_eq_bind, Option.bind_some, readQName?_afterName h, hevents]
  rfl

/-- A document with nothing but a record is read if the record can be. -/
theorem isReadable_of_ofDocument? {x : Entities × List Event}
    (hread : Event.ofDocument? r.written = some x) : r.IsReadable := by
  rw [Event.ofDocument?, readProlog?_written h] at hread
  simp only [Option.bind_eq_bind, Option.bind_some, readQName?_afterName h,
    Option.bind_eq_some_iff] at hread
  obtain ⟨x, hevents, -⟩ := hread
  rw [← List.append_nil r.afterName] at hevents
  exact isReadable_of_readAll? h hevents

end Written

end HttpExchange.Xml
