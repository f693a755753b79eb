import HttpExchange.Proofs.Form.Normal
import HttpExchange.Proofs.Json.Portable
import Mathlib.Data.List.Induction

/-!
# Where insertions put their values

An insertion goes from the whole form inwards, one name after the other, and at
each name it stands among the members that are already there. An empty segment
takes an index as its name there, and the index is always a new one, so it never
takes the place of a sibling. The names that were taken are the way to the value.
An insertion changes only what lies on its own way or below its end, and so a
value stays where it was put until a later way passes through its place, ends
before it or goes on behind it.

## Main definitions

* `Stop` — a segment, and the members among which it takes its name.
* `Key.way` — the names that an insertion takes.
* `found?` — what is found along a way.
* `HasRoom` — no index has to be found behind the greatest one of 64 bits.

## Main results

* `IsNextIndex.le_maxNat64_iff` — when 64 bits hold the next index.
* `Stop.isIndexed` — the index that an empty segment takes is new.
* `found?_insertAt_self`, `found?_insertAt_of_apart` — what one insertion puts and what it leaves.
* `parse_of_repeated` — a name with empty brackets that is repeated gives an array.
* `siblings_kept` — no member of a form is lost to its siblings.
-/

namespace HttpExchange.Form

/-! ## Ways -/

/-- A segment that an insertion comes to, and the members that are there. -/
structure Stop where
  segment : Text
  siblings : Members

/-- The name that is taken among the members. -/
def Stop.name (s : Stop) : Text := resolve s.segment s.siblings

/-- The stops of an insertion into some members, outermost first. -/
def stops : (path : List Text) → (name : Text) → Members → List Stop
  | [], name, m => [⟨name, m⟩]
  | next :: path, name, m => ⟨name, m⟩ :: stops path next (childOf (resolve name m) m)

/-- The names that an insertion into some members takes, outermost first. -/
def way (path : List Text) (name : Text) (m : Members) : List Text :=
  (stops path name m).map Stop.name

/-- What is found along a way into some members. -/
def found? (way : List Text) (m : Members) : Option Json :=
  (Json.obj m).at? (way.map Json.Step.member)

/-- The members that are found along a way, if there is an object. -/
def membersAt (way : List Text) (m : Members) : Members :=
  ((found? way m).bind Json.asObject?).getD []

/-- Two ways of which none passes through the end of the other. -/
def Apart (v w : List Text) : Prop := ¬ v <+: w ∧ ¬ w <+: v

instance (v w : List Text) : Decidable (Apart v w) := inferInstanceAs (Decidable (_ ∧ _))

theorem way_nil (name : Text) (m : Members) : way [] name m = [resolve name m] := rfl

theorem way_cons (next : Text) (path : List Text) (name : Text) (m : Members) :
    way (next :: path) name m =
      resolve name m :: way path next (childOf (resolve name m) m) := rfl

theorem way_ne_nil (path : List Text) (name : Text) (m : Members) : way path name m ≠ [] := by
  cases path with
  | nil => exact List.cons_ne_nil _ _
  | cons next path => exact List.cons_ne_nil _ _

/-- Segments that are not empty are the names that are taken. -/
theorem way_of_not_mem {path : List Text} {name : Text} (hname : name ≠ []) (hpath : [] ∉ path)
    (m : Members) : way path name m = name :: path := by
  induction path generalizing name m with
  | nil => rw [way_nil, resolve_of_ne_nil hname]
  | cons next path ih =>
      rw [List.mem_cons, not_or] at hpath
      rw [way_cons, resolve_of_ne_nil hname, ih (Ne.symm hpath.1) hpath.2]

/-! ## What is found along a way -/

theorem found?_cons (k : Text) (w : List Text) (m : Members) :
    found? (k :: w) m = (Assoc.get? k m).bind (Json.at? (w.map Json.Step.member)) := rfl

theorem found?_singleton (k : Text) (m : Members) : found? [k] m = Assoc.get? k m := by
  rw [found?_cons]
  cases Assoc.get? k m <;> rfl

/-- A way that goes on behind its first name goes into the object there. -/
theorem found?_cons_childOf (k : Text) {w : List Text} (h : w ≠ []) (m : Members) :
    found? (k :: w) m = found? w (childOf k m) := by
  obtain ⟨l, w, rfl⟩ := List.exists_cons_of_ne_nil h
  rw [found?_cons, childOf]
  cases Assoc.get? k m with
  | none => rfl
  | some v => cases v <;> rfl

theorem childOf_eq_membersAt (k : Text) (m : Members) : childOf k m = membersAt [k] m := by
  rw [membersAt, found?_singleton, childOf]
  cases Assoc.get? k m with
  | none => rfl
  | some v => cases v <;> rfl

theorem membersAt_cons (k : Text) (w : List Text) (m : Members) :
    membersAt (k :: w) m = membersAt w (childOf k m) := by
  cases w with
  | nil => exact (childOf_eq_membersAt k m).symm
  | cons l w => rw [membersAt, found?_cons_childOf k (List.cons_ne_nil l w), membersAt]

/-- **Each segment stands among the members that the names before it lead to.** -/
theorem siblings_of_getElem? {path : List Text} {name : Text} {m : Members} {i : Nat} {s : Stop}
    (h : (stops path name m)[i]? = some s) :
    s.siblings = membersAt ((way path name m).take i) m ∧ (name :: path)[i]? = some s.segment := by
  induction path generalizing name m i with
  | nil =>
      cases i with
      | zero => exact Option.some.inj h ▸ ⟨rfl, rfl⟩
      | succ i => cases h
  | cons next path ih =>
      cases i with
      | zero => exact Option.some.inj h ▸ ⟨rfl, rfl⟩
      | succ i =>
          obtain ⟨hsiblings, hsegment⟩ := ih (i := i) h
          rw [way_cons, List.take_succ_cons, membersAt_cons]
          exact ⟨hsiblings, hsegment⟩

/-! ## One insertion -/

theorem childOf_set_self (k : Text) (child m : Members) :
    childOf k (Assoc.set k (.obj child) m) = child := by
  rw [childOf, Assoc.get?_set_self]

theorem found?_set_of_ne {k l : Text} (h : l ≠ k) (w : List Text) (v : Json) (m : Members) :
    found? (l :: w) (Assoc.set k v m) = found? (l :: w) m := by
  rw [found?_cons, found?_cons, Assoc.get?_set_of_ne h]

/-- **An insertion puts its value at the end of its way.** -/
theorem found?_insertAt_self (v : Json) (path : List Text) (name : Text) (m : Members) :
    found? (way path name m) (insertAt v path name m) = some v := by
  induction path generalizing name m with
  | nil => rw [way_nil, insertAt, found?_singleton, Assoc.get?_set_self]
  | cons next path ih =>
      rw [way_cons, insertAt, found?_cons_childOf _ (way_ne_nil _ _ _), childOf_set_self, ih]

theorem Apart.of_cons {k : Text} {v w : List Text} (h : Apart (k :: v) (k :: w)) : Apart v w := by
  rwa [Apart, List.prefix_cons_inj, List.prefix_cons_inj] at h

/-- **An insertion leaves alone what is apart from its way.** -/
theorem found?_insertAt_of_apart {path : List Text} {name : Text} {m : Members} {w : List Text}
    (h : Apart (way path name m) w) (v : Json) :
    found? w (insertAt v path name m) = found? w m := by
  cases w with
  | nil => exact absurd List.nil_prefix h.2
  | cons l w =>
      induction path generalizing name m l w with
      | nil =>
          rw [way_nil] at h
          have hne : l ≠ resolve name m := by
            rintro rfl
            exact h.1 ⟨w, rfl⟩
          exact found?_set_of_ne hne w v m
      | cons next path ih =>
          rw [way_cons] at h
          rw [insertAt]
          by_cases hl : l = resolve name m
          · subst hl
            have hrest := h.of_cons
            cases w with
            | nil => exact absurd List.nil_prefix hrest.2
            | cons l' w =>
                rw [found?_cons_childOf _ (List.cons_ne_nil l' w), childOf_set_self,
                  found?_cons_childOf _ (List.cons_ne_nil l' w)]
                exact ih l' w hrest
          · exact found?_set_of_ne hl w _ m

/-! ## Indices -/

/-- A number behind all indices among some names, and behind the greatest one at once. -/
structure IsNextIndex (n : Nat) (m : Members) : Prop where
  above : ∀ e ∈ m, ∀ i, Numeral.readNat64? e.1 = some i → i < n
  least : 0 < n → ∃ e ∈ m, Numeral.readNat64? e.1 = some (n - 1)

theorem isNextIndex_nextIndex (m : Members) : IsNextIndex (nextIndex m) m := by
  have hmem : ∀ i, i ∈ m.filterMap (fun e => Numeral.readNat64? e.1) ↔
      ∃ e ∈ m, Numeral.readNat64? e.1 = some i := fun i => List.mem_filterMap
  cases hmax : (m.filterMap fun e => Numeral.readNat64? e.1).max? with
  | none =>
      have hnone := List.max?_eq_none_iff.mp hmax
      have hzero : nextIndex m = 0 := by rw [nextIndex, hmax]
      rw [hzero]
      refine ⟨fun e he i hi => ?_, fun h => absurd h (Nat.lt_irrefl 0)⟩
      have hi' := (hmem i).mpr ⟨e, he, hi⟩
      rw [hnone] at hi'
      cases hi'
  | some n =>
      obtain ⟨hn, hle⟩ := List.max?_eq_some_iff.mp hmax
      have hsucc : nextIndex m = n + 1 := by rw [nextIndex, hmax]
      rw [hsucc]
      exact ⟨fun e he i hi => Nat.lt_succ_of_le (hle i ((hmem i).mpr ⟨e, he, hi⟩)),
        fun _ => (hmem n).mp hn⟩

theorem IsNextIndex.unique {a b : Nat} {m : Members} (ha : IsNextIndex a m)
    (hb : IsNextIndex b m) : a = b := by
  have hle : ∀ {a b : Nat}, IsNextIndex a m → IsNextIndex b m → a ≤ b := by
    intro a b ha hb
    rcases Nat.eq_zero_or_pos a with rfl | hpos
    · exact Nat.zero_le b
    · obtain ⟨e, he, hread⟩ := ha.least hpos
      have := hb.above e he _ hread
      omega
  exact Nat.le_antisymm (hle ha hb) (hle hb ha)

/-- The greatest index of 64 bits is not among some names. -/
def Unfilled (m : Members) : Prop := ∀ e ∈ m, Numeral.readNat64? e.1 ≠ some Numeral.maxNat64

instance (m : Members) : Decidable (Unfilled m) :=
  inferInstanceAs (Decidable (∀ e ∈ m, Numeral.readNat64? e.1 ≠ some Numeral.maxNat64))

/-- **The next index is one of 64 bits** exactly if the greatest of these is not taken. -/
theorem IsNextIndex.le_maxNat64_iff {n : Nat} {m : Members} (h : IsNextIndex n m) :
    n ≤ Numeral.maxNat64 ↔ Unfilled m := by
  constructor
  · intro hbound e he hread
    have hlt : Numeral.maxNat64 < n := h.above e he _ hread
    exact Nat.not_le.mpr hlt hbound
  · intro hroom
    rcases Nat.eq_zero_or_pos n with rfl | hpos
    · exact Nat.zero_le _
    · obtain ⟨e, he, hread⟩ := h.least hpos
      have hle : n - 1 ≤ Numeral.maxNat64 := Numeral.le_of_readNat? hread
      have hne : n - 1 ≠ Numeral.maxNat64 := fun heq => hroom e he (heq ▸ hread)
      omega

/-- An index that is found behind all others is new, as long as there is room behind them. -/
theorem IsNextIndex.not_mem_keys {n : Nat} {m : Members} (h : IsNextIndex n m)
    (hroom : Unfilled m) : Numeral.ofNat n ∉ Assoc.keys m := by
  have hbound : n ≤ Numeral.maxNat64 := h.le_maxNat64_iff.mpr hroom
  intro hmem
  obtain ⟨e, he, hname⟩ := List.mem_map.mp hmem
  have hread : Numeral.readNat64? e.1 = some n := by
    rw [hname]
    exact Numeral.readNat?_ofNat hbound
  exact Nat.lt_irrefl n (h.above e he n hread)

/-- The name of a stop is a new index, the one behind the greatest of its siblings. -/
structure Stop.IsIndexed (s : Stop) : Prop where
  fresh : s.name ∉ Assoc.keys s.siblings
  next : ∃ n, s.name = Numeral.ofNat n ∧ IsNextIndex n s.siblings

/-- **The index that an empty segment takes is new.** -/
theorem Stop.isIndexed {s : Stop} (h : s.segment = []) (hroom : Unfilled s.siblings) :
    s.IsIndexed := by
  have hname : s.name = Numeral.ofNat (nextIndex s.siblings) := by
    rw [name, h]
    rfl
  have hnext := isNextIndex_nextIndex s.siblings
  exact ⟨hname ▸ hnext.not_mem_keys hroom, _, hname, hnext⟩

/-! ## All insertions -/

/-- The stops of a pair with a place. -/
def Key.stops (key : Key) (m : Members) : List Stop := Form.stops key.path key.base m

/-- The names that a pair with a place takes. -/
def Key.way (key : Key) (m : Members) : List Text := Form.way key.path key.base m

/-- The ways of some pairs that are added to some members one after the other. -/
def ways : Members → List (Text × Text) → List (List Text)
  | _, [] => []
  | m, p :: ps => ((Key.read? p.1).map fun key => key.way m).toList ++ ways (insert m p) ps

/-- The stops of some pairs that are added to some members one after the other. -/
def allStops : Members → List (Text × Text) → List Stop
  | _, [] => []
  | m, p :: ps =>
    ((Key.read? p.1).map fun key => key.stops m).toList.flatten ++ allStops (insert m p) ps

/-- No empty segment stands beside the greatest index of 64 bits. -/
def HasRoom (ps : List (Text × Text)) : Prop :=
  ∀ s ∈ allStops [] ps, s.segment = [] → Unfilled s.siblings

instance (ps : List (Text × Text)) : Decidable (HasRoom ps) :=
  inferInstanceAs (Decidable (∀ s ∈ allStops [] ps, s.segment = [] → Unfilled s.siblings))

theorem insert_of_read? {p : Text × Text} {key : Key} (h : Key.read? p.1 = some key)
    (m : Members) : insert m p = insertAt (.str p.2) key.path key.base m := by
  rw [insert, h]

theorem mem_allStops {m : Members} {before : List (Text × Text)} {p : Text × Text} {key : Key}
    (hkey : Key.read? p.1 = some key) {s : Stop} (hs : s ∈ key.stops (before.foldl insert m))
    (after : List (Text × Text)) : s ∈ allStops m (before ++ p :: after) := by
  induction before generalizing m with
  | nil =>
      rw [List.nil_append, allStops, hkey]
      exact List.mem_append_left _ (by simpa using hs)
  | cons q before ih => exact List.mem_append_right _ (ih hs)

/-- **Pairs leave alone what is apart from their ways.** -/
theorem found?_foldl_insert {w : List Text} {ps : List (Text × Text)} {m : Members}
    (h : ∀ v ∈ ways m ps, Apart v w) : found? w (ps.foldl insert m) = found? w m := by
  induction ps generalizing m with
  | nil => rfl
  | cons p ps ih =>
      rw [ways, List.forall_mem_append] at h
      rw [List.foldl_cons, ih h.2]
      cases hkey : Key.read? p.1 with
      | none => rw [insert, hkey]
      | some key =>
          rw [hkey] at h
          rw [insert_of_read? hkey]
          exact found?_insertAt_of_apart (h.1 _ List.mem_cons_self) _

/-! ## Repeated names -/

/-- The names of items read as their indices, as far as 64 bits go. -/
theorem exists_index_iff {items : List Json} {i : Nat} :
    (∃ e ∈ indexedFrom 0 items, Numeral.readNat64? e.1 = some i) ↔
      i < items.length ∧ i ≤ Numeral.maxNat64 := by
  have hkey : ∀ j, Numeral.ofNat j ∈ Assoc.keys (indexedFrom 0 items) ↔ j < items.length := by
    intro j
    rw [keys_indexedFrom, List.mem_map_of_injective fun _ _ => Numeral.ofNat_injective,
      List.mem_range'_1]
    omega
  constructor
  · rintro ⟨e, he, hread⟩
    have hmem : e.1 ∈ Assoc.keys (indexedFrom 0 items) := List.mem_map_of_mem he
    rw [keys_indexedFrom] at hmem
    obtain ⟨j, hj, hname⟩ := List.mem_map.mp hmem
    rw [← hname] at hread
    obtain rfl := Numeral.eq_of_readNat?_ofNat hread
    rw [List.mem_range'_1] at hj
    exact ⟨by omega, Numeral.le_of_readNat? hread⟩
  · rintro ⟨hi, hbound⟩
    obtain ⟨e, he, hname⟩ := List.mem_map.mp ((hkey i).mpr hi)
    exact ⟨e, he, hname ▸ Numeral.readNat?_ofNat hbound⟩

theorem unfilled_indexedFrom_iff {items : List Json} :
    Unfilled (indexedFrom 0 items) ↔ items.length ≤ Numeral.maxNat64 := by
  have hgreatest : (∃ e ∈ indexedFrom 0 items, Numeral.readNat64? e.1 = some Numeral.maxNat64) ↔
      Numeral.maxNat64 < items.length ∧ Numeral.maxNat64 ≤ Numeral.maxNat64 := exists_index_iff
  constructor
  · intro h
    refine Nat.not_lt.mp fun hlt => ?_
    obtain ⟨e, he, hread⟩ := hgreatest.mpr ⟨hlt, Nat.le_refl _⟩
    exact h e he hread
  · intro h e he hread
    have hlt := (hgreatest.mp ⟨e, he, hread⟩).1
    omega

/-- The next index of items is their number. -/
theorem nextIndex_indexedFrom {items : List Json} (h : items.length ≤ Numeral.maxNat64) :
    nextIndex (indexedFrom 0 items) = items.length := by
  refine (isNextIndex_nextIndex _).unique ⟨fun e he i hread => ?_, fun hpos => ?_⟩
  · exact (exists_index_iff.mp ⟨e, he, hread⟩).1
  · exact exists_index_iff.mpr ⟨by omega, by omega⟩

theorem countsFrom_indexed {n : Nat} {items : List Json}
    (h : n + items.length ≤ Numeral.maxNat64 + 1) :
    countsFrom n (indexedFrom n items) = true := by
  induction items generalizing n with
  | nil => rfl
  | cons v items ih =>
      rw [List.length_cons] at h
      have hread : Numeral.readNat64? (Numeral.ofNat n) = some n :=
        Numeral.readNat?_ofNat (by omega)
      rw [indexedFrom_cons, countsFrom, hread, ih (by omega), beq_self_eq_true]
      rfl

theorem indexedFrom_append (n : Nat) (items items' : List Json) :
    indexedFrom n (items ++ items') =
      indexedFrom n items ++ indexedFrom (n + items.length) items' := by
  rw [indexedFrom, List.zipIdx_append, List.map_append, indexedFrom, indexedFrom, Nat.add_comm]

theorem read?_append_brackets {k : Text} (h : Key.read? k = some ⟨k, []⟩) :
    Key.read? (k ++ ['[', ']']) = some ⟨k, [[]]⟩ := by
  have hsegments : ∀ s ∈ [([] : Text)], ']' ∉ s := by decide
  have hread := Key.read?_nameOf (Key.isBase_of_read? h) hsegments
  rwa [nameOf_eq] at hread

/-- A name with empty brackets adds an item. -/
theorem insert_item {k : Text} (h : Key.read? k = some ⟨k, []⟩) {items : List Json} {m : Members}
    (hchild : childOf k m = indexedFrom 0 items) (hlength : items.length ≤ Numeral.maxNat64)
    (t : Text) :
    insert m (k ++ ['[', ']'], t) =
      Assoc.set k (.obj (indexedFrom 0 (items ++ [.str t]))) m := by
  have hname : k ≠ [] := (Key.isBase_of_read? h).nonempty
  have hnew := (isNextIndex_nextIndex _).not_mem_keys (unfilled_indexedFrom_iff.mpr hlength)
  have hindex : resolve [] (indexedFrom 0 items) = Numeral.ofNat items.length := by
    rw [← nextIndex_indexedFrom hlength]
    rfl
  rw [nextIndex_indexedFrom hlength] at hnew
  rw [insert_of_read? (read?_append_brackets h), insertAt, resolve_of_ne_nil hname, hchild,
    insertAt, hindex, Assoc.set_of_not_mem hnew, indexedFrom_append, Nat.zero_add]
  rfl

/-- The pairs of a name with empty brackets that is given some values. -/
def repeated (k : Text) (ts : List Text) : List (Text × Text) :=
  ts.map fun t => (k ++ ['[', ']'], t)

/-- **A name with empty brackets gathers its values** under the indices that count them. -/
theorem collect_repeated {k : Text} (h : Key.read? k = some ⟨k, []⟩) {ts : List Text}
    (hne : ts ≠ []) (hlength : ts.length ≤ Numeral.maxNat64 + 1) :
    collect (repeated k ts) = [(k, .obj (indexedFrom 0 (ts.map .str)))] := by
  -- pairs are added at the end, so the induction takes the last one off
  induction ts using List.reverseRecOn with
  | nil => exact absurd rfl hne
  | append_singleton us t ih =>
      rw [List.length_append, List.length_singleton] at hlength
      have hstep : collect (repeated k (us ++ [t])) =
          insert (collect (repeated k us)) (k ++ ['[', ']'], t) := by
        rw [repeated, List.map_append, collect, List.foldl_append]
        rfl
      have hitem : ∀ m : Members, childOf k m = indexedFrom 0 (us.map .str) →
          insert m (k ++ ['[', ']'], t) =
            Assoc.set k (.obj (indexedFrom 0 ((us ++ [t]).map .str))) m := fun m hchild => by
        rw [insert_item h hchild (by rw [List.length_map]; omega), List.map_append]
        rfl
      rw [hstep]
      cases us with
      | nil => exact hitem [] rfl
      | cons u us =>
          rw [ih (List.cons_ne_nil u us) (by omega)]
          have hchild : childOf k [(k, .obj (indexedFrom 0 ((u :: us).map .str)))] =
              indexedFrom 0 ((u :: us).map .str) := by
            rw [childOf, Assoc.get?, if_pos rfl]
          rw [hitem _ hchild, Assoc.set, if_pos rfl]

/-- Values that are gathered under empty brackets are no more than 64 bits can count. -/
theorem length_le_of_hasRoom {k : Text} (h : Key.read? k = some ⟨k, []⟩) {ts : List Text}
    (hroom : HasRoom (repeated k ts)) : ts.length ≤ Numeral.maxNat64 + 1 := by
  refine Nat.not_lt.mp fun hlt => ?_
  -- the first value behind the greatest index would stand beside it
  have hsplit := List.take_append_drop (Numeral.maxNat64 + 1) ts
  obtain ⟨t, rest, hrest⟩ := List.exists_cons_of_ne_nil (l := ts.drop (Numeral.maxNat64 + 1))
    fun hnil => by
      have hlength := congrArg List.length hnil
      rw [List.length_drop, List.length_nil] at hlength
      omega
  have hcount : (ts.take (Numeral.maxNat64 + 1)).length = Numeral.maxNat64 + 1 :=
    List.length_take_of_le (Nat.le_of_lt hlt)
  have hpairs : repeated k ts = repeated k (ts.take (Numeral.maxNat64 + 1)) ++
      (k ++ ['[', ']'], t) :: repeated k rest := by
    rw [← hsplit, hrest, repeated, List.map_append, List.take_left' hcount]
    rfl
  have hbefore : collect (repeated k (ts.take (Numeral.maxNat64 + 1))) =
      [(k, .obj (indexedFrom 0 ((ts.take (Numeral.maxNat64 + 1)).map .str)))] :=
    collect_repeated h (fun hnil => by rw [hnil] at hcount; cases hcount) (by omega)
  have hstop : (⟨[], indexedFrom 0 ((ts.take (Numeral.maxNat64 + 1)).map .str)⟩ : Stop) ∈
      Key.stops ⟨k, [[]]⟩ (collect (repeated k (ts.take (Numeral.maxNat64 + 1)))) := by
    rw [hbefore, Key.stops, stops, stops, resolve_of_ne_nil (Key.isBase_of_read? h).nonempty,
      childOf, Assoc.get?, if_pos rfl]
    exact List.mem_cons_of_mem _ List.mem_cons_self
  rw [HasRoom, hpairs] at hroom
  have hunfilled := hroom _ (mem_allStops (read?_append_brackets h) hstop _) rfl
  have hle := unfilled_indexedFrom_iff.mp hunfilled
  rw [List.length_map, hcount] at hle
  omega

/-- Texts are left alone when arrays are recognised. -/
theorem withListsMembers_of_texts {m : Members} (h : ∀ e ∈ m, ∃ t, e.2 = .str t) :
    withListsMembers m = m := by
  rw [withListsMembers_eq, Assoc.mapValues]
  refine (List.map_congr_left (g := id) fun e he => ?_).trans (List.map_id m)
  obtain ⟨k, v⟩ := e
  obtain ⟨t, rfl⟩ := h (k, v) he
  rfl

/-- **A name with empty brackets that is repeated gives an array** of the values, in their order. -/
theorem parse_of_repeated {k : Text} (h : Key.read? k = some ⟨k, []⟩) {ts : List Text}
    (hne : ts ≠ []) {limit : Nat} (hlimit : ts.length ≤ limit)
    (hlength : ts.length ≤ Numeral.maxNat64 + 1) {t : Text} (ht : readPairs t = repeated k ts) :
    parse limit t = [(k, .arr (ts.map .str))] := by
  have htake : (readPairs t).take limit = repeated k ts := by
    rw [ht]
    exact List.take_of_length_le (by rwa [repeated, List.length_map])
  have htexts : withListsMembers (indexedFrom 0 (ts.map .str)) = indexedFrom 0 (ts.map .str) := by
    refine withListsMembers_of_texts fun e he => ?_
    obtain ⟨u, -, hu⟩ := List.mem_map.mp (mem_indexedFrom he).2
    exact ⟨u, hu.symm⟩
  have hlisted : listed (indexedFrom 0 (ts.map .str)) = .arr (ts.map .str) := by
    have hcounts : countsFrom 0 (indexedFrom 0 (ts.map .str)) = true :=
      countsFrom_indexed (by rw [List.length_map]; omega)
    have hvalues := values_indexedFrom 0 (ts.map .str)
    have hempty : (indexedFrom 0 (ts.map .str)).isEmpty = false := by
      obtain ⟨u, us, rfl⟩ := List.exists_cons_of_ne_nil hne
      rfl
    rw [listed, hempty, hcounts, hvalues]
    rfl
  rw [parse, htake, collect_repeated h hne hlength, withListsMembers, withLists, htexts, hlisted,
    withListsMembers]

/-! ## Siblings -/

/-- **No member of a form is lost to its siblings.** When a pair is added, each of its segments
stands among the members that the names before it lead to, and an empty one takes a new index there,
the one behind the greatest. A pair without empty segments goes where its name says. And the value
of a pair is there in the end unless a later pair takes the same way, or a way that ends on it or
goes on behind it. So a name with empty brackets that is repeated gives the array of its values. -/
theorem siblings_kept :
    (∀ before p after key, HasRoom (before ++ p :: after) → Key.read? p.1 = some key →
      let m := collect before
      (∀ i s, (key.stops m)[i]? = some s →
        key.steps[i]? = some s.segment ∧ (key.way m)[i]? = some s.name ∧
        s.siblings = membersAt ((key.way m).take i) m ∧ (s.segment = [] → s.IsIndexed)) ∧
      ([] ∉ key.path → key.way m = key.steps) ∧
      ((∀ w ∈ ways (insert m p) after, Apart w (key.way m)) →
        found? (key.way m) (collect (before ++ p :: after)) = some (.str p.2))) ∧
    ∀ k ts limit t, Key.read? k = some ⟨k, []⟩ → ts ≠ [] → ts.length ≤ limit →
      HasRoom (repeated k ts) → readPairs t = repeated k ts →
      parse limit t = [(k, .arr (ts.map .str))] := by
  refine ⟨?pairs, ?repeated⟩
  case pairs =>
    intro before p after key hroom hkey m
    have hbase := (Key.isBase_of_read? hkey).nonempty
    refine ⟨fun i s hs => ?_, fun hpath => way_of_not_mem hbase hpath m, fun hlater => ?_⟩
    · obtain ⟨hsiblings, hsegment⟩ := siblings_of_getElem? hs
      have hname : (key.way m)[i]? = some s.name := by
        rw [Key.way, way, List.getElem?_map]
        exact congrArg (Option.map Stop.name) hs
      have hmem := mem_allStops hkey (List.mem_of_getElem? hs) after
      exact ⟨hsegment, hname, hsiblings, fun hempty => Stop.isIndexed hempty (hroom s hmem hempty)⟩
    · have hfinal : collect (before ++ p :: after) = after.foldl insert (insert m p) := by
        rw [collect, List.foldl_append]
        rfl
      rw [hfinal, found?_foldl_insert hlater, insert_of_read? hkey]
      exact found?_insertAt_self _ _ _ _
  case repeated =>
    intro k ts limit t hk hne hlimit hroom ht
    exact parse_of_repeated hk hne hlimit (length_le_of_hasRoom hk hroom) ht

/-- Tags that are numbered, gathered and given members of their own, in turn: a pair with an empty
segment takes the index 8, and the pair after it goes into the same object. Beside them, a list of
two identifiers. -/
theorem tags_siblings_kept :
    let before : List (Text × Text) := [("tags[]", "a"), ("tags[7]", "b")]
    let id : Text × Text := ("tags[][id]", "c")
    let label : Text × Text := ("tags[8][label]", "d")
    let all := before ++ id :: [label, ("tags[]", "e")]
    let ids : Members := [("ids", .arr [.str "3", .str "4"])]
    (∃ s, (Key.stops ⟨"tags", [[], "id"]⟩ (collect before))[1]? = some s ∧ s.IsIndexed) ∧
      found? ["tags", "8", "id"] (collect all) = some (.str "c") ∧
      found? ["tags", "8", "label"] (collect all) = some (.str "d") ∧
      parse 2 "ids[]=3&ids%5B%5D=4" = ids := by
  intro before id label all ids
  obtain ⟨hpairs, hrepeated⟩ := siblings_kept
  have hroom : HasRoom all := by decide +kernel
  obtain ⟨hstops, -, hid⟩ := hpairs before id [label, ("tags[]", "e")] ⟨"tags", [[], "id"]⟩ hroom
    (by decide +kernel)
  obtain ⟨-, hplain, hlabel⟩ := hpairs (before ++ [id]) label [("tags[]", "e")]
    ⟨"tags", ["8", "label"]⟩ hroom (by decide +kernel)
  have hway : Key.way ⟨"tags", ["8", "label"]⟩ (collect (before ++ [id])) =
      ["tags", "8", "label"] := hplain (by decide)
  have hindexed : Key.way ⟨"tags", [[], "id"]⟩ (collect before) = ["tags", "8", "id"] := by
    decide +kernel
  rw [hway] at hlabel
  rw [hindexed] at hid
  obtain ⟨s, hs, hempty⟩ : ∃ s, (Key.stops ⟨"tags", [[], "id"]⟩ (collect before))[1]? = some s ∧
      s.segment = [] := ⟨_, rfl, rfl⟩
  exact ⟨⟨s, hs, (hstops 1 s hs).2.2.2 hempty⟩, hid (by decide +kernel),
    hlabel (by decide +kernel),
    hrepeated "ids" ["3", "4"] 2 _ (by decide +kernel) (by decide) (by decide) (by decide +kernel)
      (by decide +kernel)⟩

end HttpExchange.Form
