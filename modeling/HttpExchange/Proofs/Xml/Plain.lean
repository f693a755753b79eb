import HttpExchange.Proofs.Text.Lines
import HttpExchange.Proofs.Xml.Event
import HttpExchange.Xml.Tree
import Mathlib.Data.List.Chain

/-!
# Records that are written without loss

Markup is escaped when a record is written, but blanks are not, and a reader
normalises line breaks in texts and every blank in values of attributes. A
qualifier is written, but not the declaration of what it stands for. So a record
is written without loss if its blanks are the ones that stay, if no name needs a
declaration, and if the children would have their places by their local names.

A reader leaves alone what comes next to a reference. This saves a carriage
return in a text if the character behind it is one that is escaped.

## Main definitions

* `Record.IsPlain` — the records that are written without loss.
* `rereadValue`, `rereadRun` — what is read of a value or a text that was written.

## Main results

* `rereadValue_eq_self`, `not_mem_rereadValue` — which values stay what they are.
* `rereadRun_eq_self`, `isChain_of_rereadRun` — which texts stay what they are.
-/

namespace HttpExchange.Xml

open HttpExchange.Xml.Tree

/-! ## Names, values and texts -/

/-- The names of attributes that need no namespace declaration and are none. -/
inductive IsPlainName : Text → Prop
  /-- A name without a qualifier. -/
  | plain {name : Text} : IsLocalName name → name ≠ "xmlns".toList → IsPlainName name
  /-- A name with the qualifier that needs no declaration. -/
  | xml {name : Text} : IsLocalName name → name ≠ "xmlns".toList →
      IsPlainName ("xml".toList ++ ':' :: name)

theorem isPlainName_iff {name : Text} : IsPlainName name ↔
    (IsLocalName name ∧ name ≠ "xmlns".toList) ∨
      (Text.startsWith name "xml:" = true ∧ IsLocalName (name.drop 4) ∧
        name.drop 4 ≠ "xmlns".toList) := by
  constructor
  · intro h
    cases h with
    | plain h hne => exact .inl ⟨h, hne⟩
    | xml h hne => exact .inr ⟨rfl, h, hne⟩
  · rintro (⟨h, hne⟩ | ⟨hbegins, h, hne⟩)
    · exact .plain h hne
    · obtain ⟨rest, rfl⟩ := List.isPrefixOf_iff_prefix.mp hbegins
      exact .xml h hne

instance (name : Text) : Decidable (IsPlainName name) := decidable_of_iff _ isPlainName_iff.symm

/-- The values of attributes that stay what they are when they are written: a document may hold
them, and they have no blanks but spaces. -/
def IsPlainValue (t : Text) : Prop := ∀ c ∈ t, isChar c = true ∧ c ≠ '\t' ∧ c ≠ '\n' ∧ c ≠ '\r'

instance (t : Text) : Decidable (IsPlainValue t) := by
  unfold IsPlainValue
  infer_instance

/-- Whether a character stays what it is before another one: a carriage return does so before a
reference only. -/
def Stays (c next : Char) : Prop := c = '\r' → next ∈ escaped

instance : DecidableRel Stays := fun c next => by
  unfold Stays
  infer_instance

namespace Record

/-- The records that are written without loss. -/
inductive IsPlain : Record → Prop
  /-- The names and the values of attributes are plain, the carriage returns in the text stay, and
  the children are found where their local names put them. -/
  | mk {name : Text} {value : Option Text} {attributes : Assoc Text} {hasChildren : Bool}
      {children : List (Option Text × Record)}
      (hattributes : ∀ a ∈ attributes, IsPlainName a.1 ∧ IsPlainValue a.2)
      (hvalue : ∀ t ∈ value, t.IsChain Stays)
      (hplaced : children.map Prod.fst =
        (place (children.map fun child => (child.2.name, child.2))).map Prod.fst)
      (hchildren : ∀ child ∈ children, IsPlain child.2) :
      IsPlain (.mk name value attributes hasChildren children)

theorem isPlain_mk {name : Text} {value : Option Text} {attributes : Assoc Text}
    {hasChildren : Bool} {children : List (Option Text × Record)} :
    IsPlain (.mk name value attributes hasChildren children) ↔
      (∀ a ∈ attributes, IsPlainName a.1 ∧ IsPlainValue a.2) ∧
      (∀ t ∈ value, t.IsChain Stays) ∧
      children.map Prod.fst =
        (place (children.map fun child => (child.2.name, child.2))).map Prod.fst ∧
      ∀ child ∈ children, child.2.IsPlain :=
  ⟨fun ⟨ha, hv, hp, hc⟩ => ⟨ha, hv, hp, hc⟩, fun ⟨ha, hv, hp, hc⟩ => ⟨ha, hv, hp, hc⟩⟩

mutual

/-- Whether a record is plain can be computed. -/
def decidableIsPlain : (r : Record) → Decidable r.IsPlain
  | .mk _ _ _ _ children =>
    have := decidableArePlain children
    decidable_of_iff _ isPlain_mk.symm

/-- Whether the children of a record are plain can be computed. -/
def decidableArePlain : (children : List (Option Text × Record)) →
    Decidable (∀ child ∈ children, child.2.IsPlain)
  | [] => isTrue (List.forall_mem_nil _)
  | (_, child) :: rest =>
    have := decidableIsPlain child
    have := decidableArePlain rest
    decidable_of_iff _ List.forall_mem_cons.symm

end

instance (r : Record) : Decidable r.IsPlain := decidableIsPlain r

end Record

theorem IsPlainName.ofText? {name : Text} (h : IsPlainName name) :
    QName.ofText? name = some (attributeQName name) := by
  rw [attributeQName]
  cases h with
  | plain h _ => rw [QName.ofText?_of_isLocalName h, Option.getD_some]
  | xml h _ => rw [QName.ofText?_append isLocalName_xml h, Option.getD_some]

/-- Plain records can be read. -/
theorem Record.IsPlain.isReadable {r : Record} (h : r.IsPlain) : r.IsReadable := by
  induction h with
  | mk hattributes _ _ _ ih =>
      refine .mk (fun a ha => ?_) ih
      obtain ⟨hname, hvalue⟩ := hattributes a ha
      exact ⟨hname.ofText?, fun c hc => (hvalue c hc).1⟩

/-! ## Values that are read again -/

/-- The piece that a character is written as. -/
def pieceOf (c : Char) : Piece := if c ∈ escaped then .referred c else .written c

/-- What is read of a value that was written. -/
def rereadValue : Text → Text
  | [] => []
  | c :: t =>
    (if c ∈ escaped then [c] else valueChar c (nextWritten? (t.map pieceOf))) ++ rereadValue t

theorem rereadValue_eq_self {t : Text} (h : IsPlainValue t) : rereadValue t = t := by
  induction t with
  | nil => rfl
  | cons c t ih =>
      obtain ⟨⟨-, htab, hfeed, hreturn⟩, hrest⟩ := List.forall_mem_cons.mp h
      have hchar : ∀ next, valueChar c next = [c] := fun next => by
        simp [valueChar, htab, hfeed, hreturn]
      rw [rereadValue, hchar, ite_self, ih hrest]
      rfl

/-- Nothing but spaces is left of the blanks of a value. -/
theorem not_mem_rereadValue {t : Text} {c : Char} (hc : c ∈ rereadValue t) :
    c ≠ '\t' ∧ c ≠ '\n' ∧ c ≠ '\r' := by
  have hescaped : ∀ c ∈ escaped, c ≠ '\t' ∧ c ≠ '\n' ∧ c ≠ '\r' := by decide
  have hchar : ∀ (d : Char) (next : Option Char), ∀ c ∈ valueChar d next,
      c ≠ '\t' ∧ c ≠ '\n' ∧ c ≠ '\r' := by
    intro d next c hc
    rw [valueChar] at hc
    split at hc
    · cases hc
    · split at hc
      · obtain rfl := List.mem_singleton.mp hc
        decide
      · next hblank =>
          obtain rfl := List.mem_singleton.mp hc
          simp only [not_or] at hblank
          exact ⟨hblank.2.2, hblank.1, hblank.2.1⟩
  induction t with
  | nil => cases hc
  | cons d t ih =>
      rw [rereadValue] at hc
      rcases List.mem_append.mp hc with hc | hc
      · split at hc
        · next hd =>
            obtain rfl := List.mem_singleton.mp hc
            exact hescaped c hd
        · exact hchar d _ c hc
      · exact ih hc

/-! ## Texts that are read again -/

/-- A run of text behind a character that was written. -/
def takeChar (c : Char) (isLast : Bool) (run : Run) : Run :=
  if c ∈ escaped then run.referred false c isLast else run.written c isLast

/-- What is read of a text that was written, behind a run of text. -/
def rereadRun : Text → Run → Run
  | [], run => run
  | c :: t, run => rereadRun t (takeChar c t.isEmpty run)

theorem Run.push_return (c : Char) (isLast : Bool) (before : Text) :
    Run.push c isLast ('\r' :: before) = if c = '\n' then '\n' :: before
      else (if isLast && c == '\r' then '\n' else c) :: '\n' :: before := rfl

theorem Run.push_of_head {charsRev : Text} (h : '\r' ∉ charsRev.head?) (c : Char) (isLast : Bool) :
    Run.push c isLast charsRev = (if isLast && c == '\r' then '\n' else c) :: charsRev := by
  rw [Run.push]
  exact fun before heq => h (heq ▸ rfl)

theorem charsRev_takeChar {c : Char} {isLast : Bool} {run : Run}
    (hlast : c = '\r' → isLast = false) (hrun : '\r' ∈ run.charsRev.head? → c ∈ escaped) :
    (takeChar c isLast run).charsRev = c :: run.charsRev := by
  have hpush : c ∉ escaped → Run.push c isLast run.charsRev = c :: run.charsRev := by
    intro hplain
    have hkept : (if isLast && c == '\r' then '\n' else c) = c := by
      by_cases hc : c = '\r'
      · rw [hlast hc]
        rfl
      · rw [beq_eq_false_iff_ne.mpr hc, Bool.and_false]
        rfl
    rw [Run.push_of_head (fun hhead => hplain (hrun hhead)), hkept]
  rw [takeChar]
  split
  · rfl
  · next hplain =>
      rw [Run.written, hpush hplain]
      split <;> rfl

/-- A text is added to a run as it is if each of its carriage returns stays. -/
theorem charsRev_rereadRun {t : Text} (h : t.IsChain Stays) (hlast : '\r' ∉ t.getLast?)
    {run : Run} (hrun : '\r' ∈ run.charsRev.head? → ∃ c ∈ t.head?, c ∈ escaped) :
    (rereadRun t run).charsRev = t.reverse ++ run.charsRev := by
  induction t generalizing run with
  | nil => rfl
  | cons c t ih =>
      have htake : (takeChar c t.isEmpty run).charsRev = c :: run.charsRev := by
        refine charsRev_takeChar (fun hc => ?_) fun hhead => ?_
        · cases t with
          | nil => exact absurd (congrArg some hc) hlast
          | cons d t => rfl
        · obtain ⟨d, hd, hescaped⟩ := hrun hhead
          exact Option.some.inj hd ▸ hescaped
      cases t with
      | nil => exact htake
      | cons d t =>
          obtain ⟨hstays, hchain⟩ := List.isChain_cons_cons.mp h
          rw [List.getLast?_cons_cons] at hlast
          rw [rereadRun, ih hchain hlast, htake, List.reverse_cons (a := c), List.append_assoc]
          · rfl
          · intro hhead
            rw [htake] at hhead
            exact ⟨d, rfl, hstays (Option.some.inj hhead)⟩

/-- **A text stays what it is** if each of its carriage returns does and none is the last
character. -/
theorem rereadRun_eq_self {t : Text} (h : t.IsChain Stays) (hlast : '\r' ∉ t.getLast?) :
    (rereadRun t .empty).charsRev = t.reverse := by
  rw [charsRev_rereadRun h hlast fun hmem => by cases hmem]
  exact List.append_nil _

theorem count_cons_eq (c : Char) (t : Text) :
    (c :: t).count '\r' = [c].count '\r' + t.count '\r' := by
  rw [← List.singleton_append, List.count_append]

/-- Adding a character to a run drops the carriage return before it. -/
theorem count_push (c : Char) (isLast : Bool) (charsRev : Text) :
    (Run.push c isLast charsRev).count '\r' + (if '\r' ∈ charsRev.head? then 1 else 0) ≤
      [c].count '\r' + charsRev.count '\r' := by
  have hadded : [if isLast && c == '\r' then '\n' else c].count '\r' ≤ [c].count '\r' := by
    split
    · exact Nat.zero_le _
    · exact Nat.le_refl _
  have hfeed : ['\n'].count '\r' = 0 := rfl
  have hreturn : ['\r'].count '\r' = 1 := rfl
  by_cases hhead : '\r' ∈ charsRev.head?
  · obtain ⟨before, rfl⟩ := List.head?_eq_some_iff.mp hhead
    rw [if_pos hhead, Run.push_return, count_cons_eq '\r' before]
    split
    · rw [count_cons_eq '\n' before]
      omega
    · rw [count_cons_eq, count_cons_eq '\n' before]
      omega
  · rw [if_neg hhead, Run.push_of_head hhead, count_cons_eq]
    omega

/-- A text does not get more carriage returns. -/
theorem count_takeChar_le (c : Char) (isLast : Bool) (run : Run) :
    (takeChar c isLast run).charsRev.count '\r' ≤ [c].count '\r' + run.charsRev.count '\r' := by
  rw [takeChar]
  split
  · exact Nat.le_of_eq (count_cons_eq c run.charsRev)
  · rw [Run.written]
    split
    · exact Nat.le_of_eq (count_cons_eq c run.charsRev)
    · exact Nat.le_of_add_right_le (count_push c isLast run.charsRev)

theorem count_rereadRun_le (t : Text) (run : Run) :
    (rereadRun t run).charsRev.count '\r' ≤ t.count '\r' + run.charsRev.count '\r' := by
  induction t generalizing run with
  | nil => exact Nat.le_of_eq (Nat.zero_add _).symm
  | cons c t ih =>
      have htake := count_takeChar_le c t.isEmpty run
      have hrest := ih (takeChar c t.isEmpty run)
      rw [count_cons_eq]
      change (rereadRun t (takeChar c t.isEmpty run)).charsRev.count '\r' ≤ _
      omega

/-- A carriage return is added as it is, until it is known what follows it. -/
theorem takeChar_return (run : Run) : (takeChar '\r' false run).verbatim = false ∧
    '\r' ∈ (takeChar '\r' false run).charsRev.head? := by
  rw [takeChar, if_neg (by decide), Run.written]
  split
  · exact ⟨rfl, rfl⟩
  · refine ⟨rfl, ?_⟩
    by_cases hhead : '\r' ∈ run.charsRev.head?
    · obtain ⟨before, heq⟩ := List.head?_eq_some_iff.mp hhead
      rw [heq]
      rfl
    · rw [Run.push_of_head hhead]
      rfl

theorem count_takeChar_lt {c : Char} {isLast : Bool} {run : Run} (hc : c ∉ escaped)
    (hverbatim : run.verbatim = false) (hhead : '\r' ∈ run.charsRev.head?) :
    (takeChar c isLast run).charsRev.count '\r' < [c].count '\r' + run.charsRev.count '\r' := by
  have hpush := count_push c isLast run.charsRev
  rw [if_pos hhead] at hpush
  rw [takeChar, if_neg hc, Run.written, hverbatim]
  exact hpush

/-- A carriage return that does not stay gets lost. -/
theorem count_rereadRun_lt {t : Text} (h : ¬ t.IsChain Stays) (run : Run) :
    (rereadRun t run).charsRev.count '\r' < t.count '\r' + run.charsRev.count '\r' := by
  induction t generalizing run with
  | nil => exact absurd List.isChain_nil h
  | cons c t ih =>
      cases t with
      | nil => exact absurd (List.isChain_singleton c) h
      | cons d t =>
          by_cases hstays : Stays c d
          · have hrest := ih (fun hchain => h (List.isChain_cons_cons.mpr ⟨hstays, hchain⟩))
              (takeChar c false run)
            have htake := count_takeChar_le c false run
            rw [count_cons_eq]
            change (rereadRun (d :: t) (takeChar c false run)).charsRev.count '\r' < _
            omega
          · obtain ⟨rfl, hplain⟩ : c = '\r' ∧ d ∉ escaped := by
              rwa [Stays, Classical.not_imp] at hstays
            obtain ⟨hverbatim, hhead⟩ := takeChar_return run
            have hlost := @count_takeChar_lt d t.isEmpty _ hplain hverbatim hhead
            have hrest := count_rereadRun_le t (takeChar d t.isEmpty (takeChar '\r' false run))
            have htake := count_takeChar_le '\r' false run
            rw [count_cons_eq, count_cons_eq d]
            change (rereadRun t (takeChar d t.isEmpty (takeChar '\r' false run))).charsRev.count
              '\r' < _
            omega

/-- **A text whose carriage returns do not all stay is not read again**, blanks around it apart. -/
theorem isChain_of_rereadRun {t : Text}
    (h : Text.trim (rereadRun t .empty).charsRev.reverse = t) : t.IsChain Stays := by
  refine Classical.byContradiction fun hlost => ?_
  have hless := count_rereadRun_lt hlost .empty
  have hkept := (Text.trim_sublist (rereadRun t .empty).charsRev.reverse).count_le '\r'
  rw [h, List.count_reverse] at hkept
  exact absurd hless (Nat.not_lt_of_le hkept)

end HttpExchange.Xml
