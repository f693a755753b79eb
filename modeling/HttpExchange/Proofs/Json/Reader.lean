import HttpExchange.Json.Reader
import HttpExchange.Proofs.Json.Token

/-!
# Values read back

A value that was read has distinct names in each of its objects and nests no
deeper than reading allows, and it keeps numerals as they are written. Every such
value reads back from its compact text. Its text has the tokens of the value,
whatever is around them, and the machine that is given these tokens hands the
value to the collection that awaits it.

## Main definitions

* `IsReadable` — the values of a depth that can be read.
* `tokens` — the tokens of a value.

## Main results

* `readAll?_write`, `Reader.run_tokens` — the tokens of a text, and the value of tokens.
* `read?_write` — a value reads back from its compact text.
* `isReadable_of_read?` — every value that was read does.
* `length_lt_of_read?_str` — no text says the string that it is.
-/

namespace HttpExchange.Json

/-- The values that can be read inside collections that leave room for `n` more. -/
inductive IsReadable : Nat → Json → Prop
  | null (n : Nat) : IsReadable n .null
  | bool (n : Nat) (b : Bool) : IsReadable n (.bool b)
  | num (n : Nat) {numeral : Text} (h : IsNumeral numeral) : IsReadable n (.num numeral)
  | str (n : Nat) (t : Text) : IsReadable n (.str t)
  | arr {n : Nat} {items : List Json} (h : ∀ v ∈ items, IsReadable n v) :
      IsReadable (n + 1) (.arr items)
  | obj {n : Nat} {members : Members} (hdistinct : (Assoc.keys members).Nodup)
      (h : ∀ e ∈ members, IsReadable n e.2) : IsReadable (n + 1) (.obj members)

mutual

/-- The tokens of a value. -/
def tokens : Json → List Token
  | .null => [.null]
  | .bool b => [.bool b]
  | .num numeral => [.num numeral]
  | .str t => [.str t]
  | .arr items => .openArray :: tokensOfItems items ++ [.closeArray]
  | .obj members => .openObject :: tokensOfMembers members ++ [.closeObject]

/-- The tokens of items with commas between them. -/
def tokensOfItems : List Json → List Token
  | [] => []
  | [v] => tokens v
  | v :: w :: rest => tokens v ++ .comma :: tokensOfItems (w :: rest)

/-- The tokens of members with commas between them. -/
def tokensOfMembers : List (Text × Json) → List Token
  | [] => []
  | [(k, v)] => .str k :: .colon :: tokens v
  | (k, v) :: m :: rest => .str k :: .colon :: (tokens v ++ .comma :: tokensOfMembers (m :: rest))

end

/-! ## The tokens of a text -/

theorem endsNumeral_nil : EndsNumeral [] := fun _ hc => nomatch hc

theorem endsNumeral_comma (rest : Text) : EndsNumeral (',' :: rest) :=
  fun _ hc => Option.some.inj hc ▸ by decide

theorem endsNumeral_closeArray (rest : Text) : EndsNumeral (']' :: rest) :=
  fun _ hc => Option.some.inj hc ▸ by decide

theorem endsNumeral_closeObject (rest : Text) : EndsNumeral ('}' :: rest) :=
  fun _ hc => Option.some.inj hc ▸ by decide

/-- Whether the tokens of a text begin with those of a value that is written at its beginning. -/
def WritesTokens (v : Json) : Prop :=
  ∀ rest, EndsNumeral rest →
    Token.readAll? (write v ++ rest) = (Token.readAll? rest).map (tokens v ++ ·)

theorem readAll?_writeItems {items : List Json} (h : ∀ v ∈ items, WritesTokens v) (rest : Text) :
    Token.readAll? (writeItems items ++ ']' :: rest) =
      (Token.readAll? rest).map (tokensOfItems items ++ .closeArray :: ·) := by
  induction items with
  | nil => rw [writeItems, List.nil_append, Token.readAll?]; rfl
  | cons v items ih =>
      obtain ⟨hv, hitems⟩ := List.forall_mem_cons.mp h
      cases items with
      | nil =>
          rw [writeItems, hv _ (endsNumeral_closeArray rest), Token.readAll?, Option.map_map]
          rfl
      | cons w items =>
          rw [writeItems, List.append_assoc, List.cons_append, hv _ (endsNumeral_comma _),
            Token.readAll?, ih hitems, Option.map_map, Option.map_map]
          simp [Function.comp_def, tokensOfItems]

theorem readAll?_writeMembers {members : Members} (h : ∀ e ∈ members, WritesTokens e.2)
    (rest : Text) :
    Token.readAll? (writeMembers members ++ '}' :: rest) =
      (Token.readAll? rest).map (tokensOfMembers members ++ .closeObject :: ·) := by
  induction members with
  | nil => rw [writeMembers, List.nil_append, Token.readAll?]; rfl
  | cons e members ih =>
      obtain ⟨k, v⟩ := e
      obtain ⟨hv, hmembers⟩ := List.forall_mem_cons.mp h
      cases members with
      | nil =>
          rw [writeMembers, List.append_assoc, readAll?_string, List.cons_append, Token.readAll?,
            hv _ (endsNumeral_closeObject rest), Token.readAll?, Option.map_map, Option.map_map,
            Option.map_map]
          rfl
      | cons m members =>
          rw [writeMembers, List.append_assoc, List.append_assoc, readAll?_string,
            List.cons_append, Token.readAll?, List.cons_append, hv _ (endsNumeral_comma _),
            Token.readAll?, ih hmembers, Option.map_map, Option.map_map, Option.map_map,
            Option.map_map]
          simp [Function.comp_def, tokensOfMembers]

/-- **The text of a value has the tokens of the value**, whatever follows it. -/
theorem readAll?_write {n : Nat} {v : Json} (h : IsReadable n v) : WritesTokens v := by
  induction h with
  | null n => exact fun rest _ => by rw [write]; exact (Token.readAll?.eq_def _).trans rfl
  | bool n b =>
      intro rest _
      cases b with
      | true => rw [write]; exact (Token.readAll?.eq_def _).trans rfl
      | false => rw [write]; exact (Token.readAll?.eq_def _).trans rfl
  | num n h => exact fun rest hrest => readAll?_numeral h hrest
  | str n t => exact fun rest _ => readAll?_string t rest
  | arr h ih =>
      intro rest _
      rw [write, List.append_assoc, List.cons_append, Token.readAll?, List.singleton_append,
        readAll?_writeItems ih, Option.map_map]
      simp [Function.comp_def, tokens]
  | obj hdistinct h ih =>
      intro rest _
      rw [write, List.append_assoc, List.cons_append, Token.readAll?, List.singleton_append,
        readAll?_writeMembers ih, Option.map_map]
      simp [Function.comp_def, tokens]

/-! ## The value of tokens -/

namespace Reader

/-- Whether the machine that is given the tokens of a value hands the value on, as long as there is
room for `n` collections more. -/
def HandsOn (n : Nat) (v : Json) : Prop :=
  ∀ stack ts, stack.length + n ≤ maxDepth →
    run (.value stack) (tokens v ++ ts) = run (complete v stack) ts

theorem run_cons {s s' : State} {t : Token} (h : step s t = some s') (ts : List Token) :
    run s (t :: ts) = run s' ts := by
  show (step s t).bind (List.foldlM step · ts) = _
  rw [h]
  rfl

theorem run_items {n : Nat} {items : List Json} {stack : List Frame} (acc : List Json)
    (h : ∀ v ∈ items, HandsOn n v) (hne : items ≠ []) (hroom : stack.length + 1 + n ≤ maxDepth)
    (ts : List Token) :
    run (.value (.arr acc :: stack)) (tokensOfItems items ++ .closeArray :: ts) =
      run (complete (.arr (acc.reverse ++ items)) stack) ts := by
  -- on the items that are still to come, whatever items the array holds already
  induction items generalizing acc with
  | nil => exact absurd rfl hne
  | cons v items ih =>
      obtain ⟨hv, hitems⟩ := List.forall_mem_cons.mp h
      cases items with
      | nil =>
          rw [tokensOfItems, hv (.arr acc :: stack) _ hroom, complete, run_cons rfl,
            List.reverse_cons]
      | cons w items =>
          rw [tokensOfItems, List.append_assoc, List.cons_append, hv (.arr acc :: stack) _ hroom,
            complete, run_cons rfl, ih _ hitems (List.cons_ne_nil w items), List.reverse_cons,
            List.append_assoc, List.singleton_append]

theorem run_members {n : Nat} {members : Members} {stack : List Frame} (acc : Members)
    (h : ∀ e ∈ members, HandsOn n e.2) (hne : members ≠ [])
    (hdistinct : (Assoc.keys (acc ++ members)).Nodup) (hroom : stack.length + 1 + n ≤ maxDepth)
    (ts : List Token) :
    run (.name acc stack) (tokensOfMembers members ++ .closeObject :: ts) =
      run (complete (.obj (acc ++ members)) stack) ts := by
  induction members generalizing acc with
  | nil => exact absurd rfl hne
  | cons e members ih =>
      obtain ⟨k, v⟩ := e
      obtain ⟨hv, hmembers⟩ := List.forall_mem_cons.mp h
      -- a name that is given twice would be written over instead
      have hnew : k ∉ Assoc.keys acc := by
        intro hmem
        rw [Assoc.keys, List.map_append, List.nodup_append] at hdistinct
        exact hdistinct.2.2 k hmem k (by simp) rfl
      have hset : Assoc.set k v acc = acc ++ [(k, v)] := Assoc.set_of_not_mem hnew v
      cases members with
      | nil =>
          rw [tokensOfMembers, List.cons_append, List.cons_append, run_cons rfl, run_cons rfl,
            hv (.obj acc k :: stack) _ hroom, complete, hset, run_cons rfl]
      | cons m members =>
          rw [← List.singleton_append, ← List.append_assoc] at hdistinct
          rw [tokensOfMembers, List.cons_append, List.cons_append, run_cons rfl, run_cons rfl,
            List.append_assoc, List.cons_append, hv (.obj acc k :: stack) _ hroom, complete, hset,
            run_cons rfl, ih _ hmembers (List.cons_ne_nil m members) hdistinct, List.append_assoc,
            List.singleton_append]

/-- No value begins with the end of an array. -/
theorem exists_tokens_eq_cons (v : Json) : ∃ t ts, tokens v = t :: ts ∧ t ≠ .closeArray := by
  cases v with
  | null => exact ⟨.null, [], by rw [tokens], nofun⟩
  | bool b => exact ⟨.bool b, [], by rw [tokens], nofun⟩
  | num numeral => exact ⟨.num numeral, [], by rw [tokens], nofun⟩
  | str t => exact ⟨.str t, [], by rw [tokens], nofun⟩
  | arr items => exact ⟨.openArray, _, by rw [tokens, List.cons_append], nofun⟩
  | obj members => exact ⟨.openObject, _, by rw [tokens, List.cons_append], nofun⟩

theorem run_firstItem {t : Token} (h : t ≠ .closeArray) (stack : List Frame) (ts : List Token) :
    run (.firstItem stack) (t :: ts) = run (.value (.arr [] :: stack)) (t :: ts) := by
  have hstep : step (.firstItem stack) t = step (.value (.arr [] :: stack)) t := by
    cases t <;> first | rfl | exact absurd rfl h
  show (step _ t).bind (List.foldlM step · ts) = (step _ t).bind (List.foldlM step · ts)
  rw [hstep]

/-- **The machine that is given the tokens of a value hands the value on.** -/
theorem run_tokens {n : Nat} {v : Json} (h : IsReadable n v) : HandsOn n v := by
  induction h with
  | null n => exact fun stack ts _ => by rw [tokens]; exact run_cons rfl ts
  | bool n b => exact fun stack ts _ => by rw [tokens]; exact run_cons rfl ts
  | num n h => exact fun stack ts _ => by rw [tokens]; exact run_cons rfl ts
  | str n t => exact fun stack ts _ => by rw [tokens]; exact run_cons rfl ts
  | @arr n items h ih =>
      intro stack ts hroom
      have hopen : step (.value stack) .openArray = some (.firstItem stack) := by
        rw [step, beginValue, if_pos (by omega)]
      rw [tokens, List.cons_append, List.cons_append, run_cons hopen, List.append_assoc]
      cases items with
      | nil => exact run_cons rfl ts
      | cons v items =>
          have hinside : stack.length + 1 + n ≤ maxDepth := by omega
          have hitems := run_items [] ih (List.cons_ne_nil v items) hinside ts
          have hfirst : ∃ t rest, tokensOfItems (v :: items) = t :: rest ∧ t ≠ .closeArray := by
            obtain ⟨t, rest, hcons, ht⟩ := exists_tokens_eq_cons v
            cases items with
            | nil => exact ⟨t, rest, hcons, ht⟩
            | cons w items =>
                refine ⟨t, rest ++ .comma :: tokensOfItems (w :: items), ?_, ht⟩
                rw [tokensOfItems, hcons, List.cons_append]
          obtain ⟨t, rest, hcons, ht⟩ := hfirst
          rw [hcons] at hitems ⊢
          rw [List.cons_append, run_firstItem ht]
          exact hitems
  | @obj n members hdistinct h ih =>
      intro stack ts hroom
      have hopen : step (.value stack) .openObject = some (.firstName stack) := by
        rw [step, beginValue, if_pos (by omega)]
      rw [tokens, List.cons_append, List.cons_append, run_cons hopen, List.append_assoc]
      cases members with
      | nil => exact run_cons rfl ts
      | cons e members =>
          have hinside : stack.length + 1 + n ≤ maxDepth := by omega
          have hmembers := run_members [] ih (List.cons_ne_nil e members) hdistinct hinside
            ts
          -- the first name is read as every other one, but for the end that may stand in its place
          have hfirst : ∃ k rest, tokensOfMembers (e :: members) = .str k :: rest := by
            cases members with
            | nil => exact ⟨e.1, _, by rw [tokensOfMembers]⟩
            | cons m members => exact ⟨e.1, _, by rw [tokensOfMembers]⟩
          obtain ⟨k, rest, hcons⟩ := hfirst
          rw [hcons] at hmembers ⊢
          exact hmembers

end Reader

/-- **A value reads back from its compact text.** -/
theorem read?_write {v : Json} (h : IsReadable maxDepth v) : read? (write v) = some v := by
  have htokens := readAll?_write h [] endsNumeral_nil
  have hrun := Reader.run_tokens h [] [] (Nat.le_refl _)
  rw [List.append_nil, Token.readAll?, Option.map_some, List.append_nil] at htokens
  rw [List.append_nil] at hrun
  rw [read?, htokens, Option.bind_some, ofTokens?, hrun]
  rfl

/-! ## Values that were read -/

namespace Reader

/-- Open collections that hold what can be read inside them. -/
inductive IsOpen : List Frame → Prop
  | nil : IsOpen []
  | arr {n : Nat} {itemsRev : List Json} {stack : List Frame}
      (hroom : stack.length + 1 + n = maxDepth) (h : ∀ v ∈ itemsRev, IsReadable n v)
      (hstack : IsOpen stack) : IsOpen (.arr itemsRev :: stack)
  | obj {n : Nat} {members : Members} {stack : List Frame} (name : Text)
      (hroom : stack.length + 1 + n = maxDepth) (hdistinct : (Assoc.keys members).Nodup)
      (h : ∀ e ∈ members, IsReadable n e.2) (hstack : IsOpen stack) :
      IsOpen (.obj members name :: stack)

/-- What holds of the machine whatever tokens it was given. -/
def Holds : State → Prop
  | .value stack => IsOpen stack
  | .firstItem stack => IsOpen (.arr [] :: stack)
  | .afterItem itemsRev stack => IsOpen (.arr itemsRev :: stack)
  | .firstName stack => IsOpen (.obj [] [] :: stack)
  | .name members stack => IsOpen (.obj members [] :: stack)
  | .colon members name stack => IsOpen (.obj members name :: stack)
  | .afterMember members stack => IsOpen (.obj members [] :: stack)
  | .done v => IsReadable maxDepth v

theorem IsOpen.exists_room {stack : List Frame} (h : IsOpen stack) :
    ∃ n, stack.length + n = maxDepth := by
  cases h with
  | nil => exact ⟨maxDepth, Nat.zero_add _⟩
  | arr hroom => exact ⟨_, hroom⟩
  | obj _ hroom => exact ⟨_, hroom⟩

/-- An object does not change with the name that awaits a value. -/
theorem IsOpen.rename {members : Members} {name : Text} {stack : List Frame}
    (h : IsOpen (.obj members name :: stack)) (other : Text) :
    IsOpen (.obj members other :: stack) := by
  cases h with
  | obj _ hroom hdistinct h hstack => exact .obj other hroom hdistinct h hstack

theorem holds_complete {n : Nat} {v : Json} {stack : List Frame} (hstack : IsOpen stack)
    (hroom : stack.length + n = maxDepth) (hv : IsReadable n v) : Holds (complete v stack) := by
  cases hstack with
  | nil =>
      obtain rfl : n = maxDepth := (Nat.zero_add n).symm.trans hroom
      exact hv
  | @arr n' itemsRev stack hroom' h hstack =>
      obtain rfl : n = n' := by simp only [List.length_cons] at hroom; omega
      exact .arr hroom' (List.forall_mem_cons.mpr ⟨hv, h⟩) hstack
  | @obj n' members stack name hroom' hdistinct h hstack =>
      obtain rfl : n = n' := by simp only [List.length_cons] at hroom; omega
      refine .obj [] hroom' (Assoc.nodup_keys_set hdistinct name v) (fun e he => ?_) hstack
      rcases Assoc.mem_set he with heq | hmem
      · exact (Prod.mk.inj heq).2 ▸ hv
      · exact h e hmem

theorem holds_beginValue {stack : List Frame} (hstack : IsOpen stack) {t : Token}
    (ht : t.IsKept) {s : State} (h : beginValue stack t = some s) : Holds s := by
  obtain ⟨n, hroom⟩ := hstack.exists_room
  have hinside : stack.length < maxDepth → stack.length + 1 + (n - 1) = maxDepth := by omega
  cases t with
  | null => exact Option.some.inj h ▸ holds_complete hstack hroom (.null n)
  | bool b => exact Option.some.inj h ▸ holds_complete hstack hroom (.bool n b)
  | num numeral => exact Option.some.inj h ▸ holds_complete hstack hroom (.num n ht)
  | str t => exact Option.some.inj h ▸ holds_complete hstack hroom (.str n t)
  | openArray =>
      obtain ⟨hless, heq⟩ := Option.ite_none_right_eq_some.mp h
      exact Option.some.inj heq ▸ .arr (hinside hless) (fun _ hv => nomatch hv) hstack
  | openObject =>
      obtain ⟨hless, heq⟩ := Option.ite_none_right_eq_some.mp h
      exact Option.some.inj heq ▸
        .obj [] (hinside hless) List.nodup_nil (fun _ hv => nomatch hv) hstack
  | closeArray => cases h
  | closeObject => cases h
  | comma => cases h
  | colon => cases h

/-- **One token keeps what holds of the machine.** -/
theorem holds_step {s s' : State} (hs : Holds s) {t : Token} (ht : t.IsKept)
    (h : step s t = some s') : Holds s' := by
  -- a token begins a value, ends a collection, or stands between values, and only in the last
  -- case is the stack what it was
  unfold step at h
  split at h
  · exact holds_beginValue hs ht h
  · next stack =>
      cases hs with
      | @arr n _ _ hroom hitems hstack =>
          have hroom' : stack.length + (n + 1) = maxDepth := by omega
          exact Option.some.inj h ▸ holds_complete hstack hroom' (.arr hitems)
  · exact holds_beginValue hs ht h
  · exact Option.some.inj h ▸ hs
  · next itemsRev stack =>
      cases hs with
      | @arr n _ _ hroom hitems hstack =>
          have hroom' : stack.length + (n + 1) = maxDepth := by omega
          refine Option.some.inj h ▸ holds_complete hstack hroom' (.arr fun v hv => ?_)
          exact hitems v (List.mem_reverse.mp hv)
  · next stack =>
      cases hs with
      | @obj n _ _ _ hroom hdistinct hmembers hstack =>
          have hroom' : stack.length + (n + 1) = maxDepth := by omega
          exact Option.some.inj h ▸ holds_complete hstack hroom' (.obj hdistinct hmembers)
  · exact Option.some.inj h ▸ hs.rename _
  · exact Option.some.inj h ▸ hs.rename _
  · exact Option.some.inj h ▸ hs
  · exact Option.some.inj h ▸ hs
  · next members stack =>
      cases hs with
      | @obj n _ _ _ hroom hdistinct hmembers hstack =>
          have hroom' : stack.length + (n + 1) = maxDepth := by omega
          exact Option.some.inj h ▸ holds_complete hstack hroom' (.obj hdistinct hmembers)
  · cases h

/-- All tokens keep what holds of the machine. -/
theorem holds_run {s s' : State} (hs : Holds s) {ts : List Token} (hts : ∀ t ∈ ts, t.IsKept)
    (h : run s ts = some s') : Holds s' := by
  induction ts generalizing s with
  | nil => exact Option.some.inj h ▸ hs
  | cons t ts ih =>
      obtain ⟨ht, hts⟩ := List.forall_mem_cons.mp hts
      obtain ⟨next, hnext, hrest⟩ := Option.bind_eq_some_iff.mp h
      exact ih (holds_step hs ht hnext) hts hrest

end Reader

/-- **Every value that was read can be read again.** -/
theorem isReadable_of_read? {t : Text} {v : Json} (h : read? t = some v) :
    IsReadable maxDepth v := by
  obtain ⟨ts, hts, hvalue⟩ := Option.bind_eq_some_iff.mp h
  have hkept := isKept_of_readAll? hts
  unfold ofTokens? at hvalue
  split at hvalue
  · next hrun =>
      obtain rfl := Option.some.inj hvalue
      exact Reader.holds_run (s := .value []) Reader.IsOpen.nil hkept hrun
  · cases hvalue

/-! ## Strings that were read

A token that opens a collection can only lead to a collection, so a string comes from a text that
has it as its only token. -/

namespace Reader

/-- Whether the value that is read is a collection, which may still be open. -/
def InCollection : State → Prop
  | .value stack => stack ≠ []
  | .done v => v.isCollection = true
  | _ => True

theorem inCollection_complete {v : Json} {stack : List Frame}
    (h : stack = [] → v.isCollection = true) : InCollection (complete v stack) := by
  cases stack with
  | nil => exact h rfl
  | cons frame stack => cases frame <;> trivial

theorem inCollection_beginValue {stack : List Frame} (hstack : stack ≠ []) {t : Token} {s : State}
    (h : beginValue stack t = some s) : InCollection s := by
  have hcomplete : ∀ v, InCollection (complete v stack) := fun v =>
    inCollection_complete fun hnil => absurd hnil hstack
  cases t with
  | null | bool _ | num _ | str _ => exact Option.some.inj h ▸ hcomplete _
  | openArray | openObject =>
      obtain ⟨-, heq⟩ := Option.ite_none_right_eq_some.mp h
      exact Option.some.inj heq ▸ trivial
  | _ => cases h

/-- A collection that was begun is what is read in the end. -/
theorem inCollection_step {s s' : State} (hs : InCollection s) {t : Token}
    (h : step s t = some s') : InCollection s' := by
  unfold step at h
  split at h
  · exact inCollection_beginValue hs h
  · exact Option.some.inj h ▸ inCollection_complete fun _ => rfl
  · exact inCollection_beginValue (List.cons_ne_nil _ _) h
  · exact Option.some.inj h ▸ List.cons_ne_nil _ _
  · exact Option.some.inj h ▸ inCollection_complete fun _ => rfl
  · exact Option.some.inj h ▸ inCollection_complete fun _ => rfl
  · exact Option.some.inj h ▸ trivial
  · exact Option.some.inj h ▸ trivial
  · exact Option.some.inj h ▸ List.cons_ne_nil _ _
  · exact Option.some.inj h ▸ trivial
  · exact Option.some.inj h ▸ inCollection_complete fun _ => rfl
  · cases h

theorem inCollection_run {s s' : State} (hs : InCollection s) {ts : List Token}
    (h : run s ts = some s') : InCollection s' := by
  induction ts generalizing s with
  | nil => exact Option.some.inj h ▸ hs
  | cons t ts ih =>
      obtain ⟨next, hnext, hrest⟩ := Option.bind_eq_some_iff.mp h
      exact ih (inCollection_step hs hnext) hrest

/-- Nothing may follow a value that is complete. -/
theorem eq_of_run_done {v : Json} {ts : List Token} {s : State} (h : run (.done v) ts = some s) :
    ts = [] ∧ s = .done v := by
  cases ts with
  | nil => exact ⟨rfl, (Option.some.inj h).symm⟩
  | cons t ts =>
      have hstep : step (.done v) t = none := by cases t <;> rfl
      change (step (.done v) t).bind (run · ts) = some s at h
      rw [hstep] at h
      cases h

end Reader

/-- The tokens of a string are this string. -/
theorem eq_of_ofTokens?_str {ts : List Token} {s : Text} (h : ofTokens? ts = some (.str s)) :
    ts = [.str s] := by
  have hrun : Reader.run (.value []) ts = some (.done (.str s)) := by
    unfold ofTokens? at h
    split at h
    · next hrun => rw [hrun, Option.some.inj h]
    · cases h
  cases ts with
  | nil => cases hrun
  | cons t ts =>
      obtain ⟨next, hnext, hrest⟩ := Option.bind_eq_some_iff.mp hrun
      have hscalar : ∀ {v : Json}, next = .done v → v = .str s ∧ ts = [] := by
        rintro v rfl
        obtain ⟨hnil, heq⟩ := Reader.eq_of_run_done hrest
        exact ⟨(Reader.State.done.inj heq).symm, hnil⟩
      have hcollection : ¬ Reader.InCollection next := fun hnext =>
        nomatch Reader.inCollection_run hnext hrest
      cases t with
      | str t =>
          obtain ⟨heq, rfl⟩ := hscalar (Option.some.inj hnext).symm
          rw [Json.str.inj heq]
      | null | bool _ | num _ => cases (hscalar (Option.some.inj hnext).symm).1
      | openArray => exact absurd (Option.some.inj hnext ▸ trivial) hcollection
      | openObject => exact absurd (Option.some.inj hnext ▸ trivial) hcollection
      | _ => cases hnext

/-- **No text says the string that it is.** -/
theorem length_lt_of_read?_str {t s : Text} (h : read? t = some (.str s)) :
    s.length < t.length := by
  obtain ⟨ts, hts, hvalue⟩ := Option.bind_eq_some_iff.mp h
  obtain rfl := eq_of_ofTokens?_str hvalue
  exact length_lt_of_mem_readAll? hts List.mem_cons_self

end HttpExchange.Json
