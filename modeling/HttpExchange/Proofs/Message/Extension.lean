import HttpExchange.Proofs.Form.RoundTrip
import HttpExchange.Proofs.Message.Merge
import HttpExchange.Proofs.Request.Frame

/-!
# Nothing is lost when a body is extended

Two arrays are put one after the other. Anything else becomes an object, and
what becomes of a member depends on its name alone. A name that reads as an index
only says where the value stands, so the values under such names are counted
anew. Every other name is kept, with its last value at its first place. The numbers
that are counted are indices themselves, so they meet no name that is kept, and
with that no value is written over by another one.

A body that is not a collection, or an empty one, gives way to what it is extended by.

## Main results

* `Json.isJoint_renumber` — what two collections are as one.
* `Message.extendBody_joint` — a body after it was extended, and after a URI with a query was set.
-/

namespace HttpExchange

namespace Json

/-- An object names each of its members once. -/
def NamesOnce (v : Json) : Prop := ∀ m, v = .obj m → (Assoc.keys m).Nodup

theorem NamesOnce.toMembers {v : Json} (h : v.NamesOnce) : (Assoc.keys v.toMembers).Nodup := by
  cases v with
  | obj m => exact h m rfl
  | arr items => exact Form.nodup_keys_indexedFrom 0 items
  | null | bool _ | num _ | str _ => exact List.pairwise_singleton _ _

/-- Two collections whose positions a 64-bit index can count. -/
structure Mergeable (base extra : Json) : Prop where
  distinctBase : base.NamesOnce
  distinctExtra : extra.NamesOnce
  count : (positioned (base.toMembers ++ extra.toMembers)).length ≤ Numeral.maxNat64 + 1

/-- What two sequences of members are as one object. -/
structure IsJoint (base extra members : Members) : Prop where
  /-- Every member stands where one of its name, or of its number, stood first. -/
  order : Assoc.keys members = (Assoc.keys (numbered 0 (base ++ extra))).eraseDups
  /-- Each name that is no index is there once. -/
  names : Assoc.keys (named members) = (Assoc.keys (named (base ++ extra))).eraseDups
  /-- It has the value that is added, and without one the value that it had. -/
  values : ∀ name, isIndex name = false →
    Assoc.get? name members = (Assoc.get? name extra <|> Assoc.get? name base)
  /-- The values under indices are all there, in order, and they are counted from zero. -/
  positions : positioned members = indexed (Assoc.values (positioned (base ++ extra)))

/-- **What two collections are as one.** -/
theorem isJoint_renumber {base extra : Json} (h : Mergeable base extra) :
    IsJoint base.toMembers extra.toMembers (renumber (base.toMembers ++ extra.toMembers)) where
  order := by
    rw [renumber_eq, Assoc.keys_ofList]
  names := by
    rw [named_renumber h.count, Assoc.keys_ofList]
  values := by
    intro name hname
    rw [get?_renumber h.count hname, Assoc.ofList, Assoc.setAll_append,
      Assoc.get?_setAll h.distinctExtra.toMembers, ← Assoc.ofList,
      Assoc.ofList_of_nodup h.distinctBase.toMembers]
  positions := positioned_renumber h.count

example :
    Json.merge (.obj [("5", .str "a"), ("name", .str "x"), ("9", .str "b")])
      (.obj [("3", .str "c"), ("name", .str "y")]) =
    .obj [("0", .str "a"), ("name", .str "y"), ("1", .str "b"), ("2", .str "c")] := by
  decide +kernel

/-- A member of the first collection is kept, unless the second one names it. -/
theorem exists_get?_merge {base extra : Json} (h : Mergeable base extra) {name : Text} {v : Json}
    (hmem : (name, v) ∈ base.toMembers)
    (hname : isIndex name = true ∨ name ∉ Assoc.keys extra.toMembers) :
    ∃ k, Assoc.get? k (renumber (base.toMembers ++ extra.toMembers)) = some v ∧
      (k = name ∨ isIndex name = true ∧ isIndex k = true) := by
  cases hindex : isIndex name with
  | true =>
      obtain ⟨k, hk, hget⟩ := exists_get?_renumber h.count (List.mem_append_left _ hmem) hindex
      exact ⟨k, hget, .inr ⟨rfl, hk⟩⟩
  | false =>
      have hnew : name ∉ Assoc.keys extra.toMembers :=
        hname.resolve_left (by rw [hindex]; exact Bool.false_ne_true)
      have hvalue := (isJoint_renumber h).values name hindex
      rw [Assoc.get?_eq_none_iff.mpr hnew,
        Assoc.get?_of_mem h.distinctBase.toMembers hmem] at hvalue
      exact ⟨name, hvalue, .inl rfl⟩

end Json

namespace Message

theorem extendBody_of_collection (m : Message) {extra : Json} (h : extra.isCollection = true) :
    m.extendBody (.structured extra) = { m with body := extendWith extra m.body } := by
  rw [extendBody, if_pos h]

/-- Setting a URI with a query adds the parameters of the query. -/
theorem setUri_of_query {t query : Text} (h : (Uri.parse t).query = some query) (m : Message) :
    (m.setUri t).body =
      extendWith (.obj (Form.parse m.decoder.maxInputVars query)) m.body := by
  rw [setUri_body_eq, h]
  rfl

/-- **Extending a body loses nothing.** Two arrays are put one after the other, and other
collections become one object; what is no collection, or an empty one, is replaced. So a parameter
of the body stays when a URI is set, unless the query of the URI names it. -/
theorem extendBody_joint (m : Message) :
    (∀ a b, a ≠ [] → m.body = .structured (.arr a) →
      m.extendBody (.structured (.arr b)) = { m with body := .structured (.arr (a ++ b)) }) ∧
    (∀ base extra : Json, m.body = .structured base → base.isNonEmptyCollection = true →
      extra.isCollection = true →
      base.asObject?.isSome = true ∨ extra.asObject?.isSome = true →
      Json.Mergeable base extra →
      ∃ members, m.extendBody (.structured extra) =
        { m with body := .structured (.obj members) } ∧
        Json.IsJoint base.toMembers extra.toMembers members) ∧
    (∀ extra : Json, extra.isCollection = true →
      (∀ base, m.body = .structured base → base.isNonEmptyCollection = false) →
      m.extendBody (.structured extra) = { m with body := .structured extra }) ∧
    ∀ (base : Json) (t query : Text), m.body = .structured base →
      base.isNonEmptyCollection = true → (Uri.parse t).query = some query →
      base.NamesOnce →
      (Json.positioned (base.toMembers ++ Form.parse m.decoder.maxInputVars query)).length ≤
        Numeral.maxNat64 + 1 →
      ∀ k v, (k, v) ∈ base.toMembers →
        Json.isIndex k = true ∨ k ∉ Assoc.keys (Form.parse m.decoder.maxInputVars query) →
        (m.setUri t).body.HoldsParam k v := by
  refine ⟨?arrays, ?objects, ?replaced, ?query⟩
  case arrays =>
    intro a b hne hbody
    have hcollection : (Json.arr a).isNonEmptyCollection = true := by
      cases a with
      | nil => exact absurd rfl hne
      | cons _ _ => rfl
    rw [extendBody_of_collection m (by rfl), hbody, extendWith_of_collection hcollection,
      Json.merge]
  case objects =>
    intro base extra hbody hcollection hextra hobject hmergeable
    refine ⟨_, ?_, Json.isJoint_renumber hmergeable⟩
    rw [extendBody_of_collection m hextra, hbody, extendWith_of_collection hcollection,
      Json.merge_of_object hobject]
  case replaced =>
    intro extra hextra hbody
    rw [extendBody_of_collection m hextra]
    cases hm : m.body with
    | raw t => rfl
    | structured base =>
        rw [extendWith, hbody base hm, if_neg Bool.false_ne_true]
  case query =>
    intro base t query hbody hcollection hquery hbase hcount k v hmem hk
    have hmergeable :
        Json.Mergeable base (.obj (Form.parse m.decoder.maxInputVars query)) := by
      refine ⟨hbase, ?_, hcount⟩
      rintro params ⟨rfl⟩
      exact Form.nodup_keys_parse _ _
    obtain ⟨name, hget, hname⟩ := Json.exists_get?_merge hmergeable hmem hk
    refine ⟨_, ?_, name, hget, hname⟩
    rw [setUri_of_query hquery, hbody, extendWith_of_collection hcollection,
      Json.merge_of_object (.inr rfl)]

/-- An object whose names are an index with a sign, one with leading zeros, the first number that
is no index, and a word that the query names too. -/
theorem padded_indices_joint :
    let base : Json := .obj [("+5", .null), ("18446744073709551616", .bool true), ("name", .null)]
    let extra : Json := .obj [("007", .bool false), ("name", .str "y")]
    let m : Message := (blank {}).setBodyRaw (.structured base)
    (∃ members, m.extendBody (.structured extra) = { m with body := .structured (.obj members) } ∧
      Json.IsJoint base.toMembers extra.toMembers members) ∧
    (m.setUri "http://a.test/?name=y&18446744073709551615=z").body.HoldsParam
      "18446744073709551616" (.bool true) := by
  intro base extra m
  have hbase : base.NamesOnce := by
    intro members hmembers
    rw [← Json.obj.inj hmembers]
    decide
  have hextra : extra.NamesOnce := by
    intro members hmembers
    rw [← Json.obj.inj hmembers]
    decide
  obtain ⟨-, hobjects, -, hquery⟩ := extendBody_joint m
  refine ⟨hobjects base extra rfl rfl rfl (.inl rfl) ⟨hbase, hextra, by decide +kernel⟩, ?_⟩
  exact hquery base "http://a.test/?name=y&18446744073709551615=z" "name=y&18446744073709551615=z"
    rfl rfl (by decide +kernel) hbase (by decide +kernel) _ _ (by decide) (.inr (by decide +kernel))

end Message

end HttpExchange
