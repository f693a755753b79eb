import HttpExchange.Proofs.Body.Multipart
import HttpExchange.Proofs.Form.RoundTrip

/-!
# What a form can hold

The limit on the fields of a form bounds what is made of it. Each pair within the
limit adds one text at most, and a collection is made only to put a text into it,
so a form that was read has a text at every end, something in every collection,
and no more texts than pairs. Pairs beyond the limit are not looked at. The parts
of a multipart body are read through a form, which has one pair for each of them.

## Main definitions

* `Form.Leafy` — values with a text at every end.
* `Form.IsBounded` — members that are leafy and have a limited number of leaves.

## Main results

* `Grown.leafy_withLists` — what insertions build is leafy when arrays have been recognised.
* `parse_isBounded`, `parse_congr` — a form within its limit, and what follows the limit.
* `limit_bounds` — the bound for forms and for multipart bodies.
-/

namespace HttpExchange

namespace Form

/-- Values with a text at every end: texts, and collections with something in them. -/
inductive Leafy : Json → Prop where
  | text (t : Text) : Leafy (.str t)
  | array {items : List Json} : items ≠ [] → (∀ v ∈ items, Leafy v) → Leafy (.arr items)
  | object {m : Members} : m ≠ [] → (∀ e ∈ m, Leafy e.2) → Leafy (.obj m)

/-- Members that are leafy, with no more leaves than a limit and a number of fields allow. -/
structure IsBounded (limit fields : Nat) (m : Members) : Prop where
  leaves : (leavesMembers m).length ≤ min limit fields
  shape : ∀ e ∈ m, Leafy e.2

/-- **What insertions build is leafy** when arrays have been recognised in it. -/
theorem Grown.leafy_withLists {v : Json} (h : Grown v) : Leafy (withLists v) := by
  induction h with
  | text t => exact .text t
  | @branch m hne _ _ _ ih =>
      have hmembers : ∀ e ∈ withListsMembers m, Leafy e.2 := by
        intro e he
        obtain ⟨x, hx, rfl⟩ := mem_withListsMembers he
        exact ih x hx
      have hne' : withListsMembers m ≠ [] := by
        rw [withListsMembers_eq]
        exact fun hnil => hne (List.map_eq_nil_iff.mp hnil)
      rw [withLists, listed]
      split
      · refine .array (fun hnil => hne' (List.map_eq_nil_iff.mp hnil)) fun v hv => ?_
        obtain ⟨e, he, rfl⟩ := List.mem_map.mp hv
        exact hmembers e he
      · exact .object hne' hmembers

/-- **A form is bounded** by its limit and by its pairs. -/
theorem parse_isBounded (limit : Nat) (t : Text) :
    IsBounded limit (pieces t).length (parse limit t) where
  leaves := by
    have hcollect := length_leaves_collect ((readPairs t).take limit)
    rw [List.length_take, readPairs, List.length_map] at hcollect
    rw [parse, length_leavesMembers_withLists]
    exact hcollect
  shape := by
    intro e he
    obtain ⟨x, hx, rfl⟩ := mem_withListsMembers he
    exact ((collect_level _).values x hx).leafy_withLists

/-- **What follows the limit is not looked at.** -/
theorem parse_congr {limit : Nat} {t t' : Text}
    (h : (pieces t').take limit = (pieces t).take limit) : parse limit t' = parse limit t := by
  rw [parse, parse, readPairs, readPairs, ← List.map_take, ← List.map_take, h]

end Form

namespace Decoder

theorem isBounded_partsJson (d : Decoder) (boundary raw : Text) :
    Form.IsBounded d.maxInputVars (Multipart.fields boundary raw).length
      (d.partsJson boundary raw) := by
  have hbounded := Form.parse_isBounded d.maxInputVars
    (Form.writePairs (Multipart.fields boundary raw))
  rwa [Form.pieces_writePairs, List.length_map] at hbounded

/-- Without a boundary there are no parts, and the text is kept. -/
theorem decode_of_no_boundary {hs : Headers} (htype : contentTypeOf hs = "multipart/form-data")
    (hnone : Multipart.boundary? ((hs.get? "Content-Type").getD []) = none) (d : Decoder)
    (raw : Text) : d.decode raw hs = .raw raw := by
  rw [decode, value?_of_multipart htype, readMultipart?, hnone]
  rfl

/-- **The limit on the fields of a form bounds what is made of it**: a form has no more leaves than
its limit and its pairs allow, each of them a text, nothing in it is empty, and nothing but the
pairs within the limit counts. The same bound holds for a multipart body, whose parts take the
place of the pairs, unless there is no boundary and its text is kept. -/
theorem limit_bounds :
    (∀ limit t, Form.IsBounded limit (Form.pieces t).length (Form.parse limit t) ∧
      ∀ t', (Form.pieces t').take limit = (Form.pieces t).take limit →
        Form.parse limit t' = Form.parse limit t) ∧
    ∀ (d : Decoder) (hs : Headers) (raw : Text), contentTypeOf hs = "multipart/form-data" →
      (∀ boundary, Multipart.boundary? ((hs.get? "Content-Type").getD []) = some boundary →
        ∃ m, d.decode raw hs = .structured (.obj m) ∧
          Form.IsBounded d.maxInputVars (Multipart.fields boundary raw).length m) ∧
      (Multipart.boundary? ((hs.get? "Content-Type").getD []) = none →
        d.decode raw hs = .raw raw) := by
  refine ⟨fun limit t => ⟨Form.parse_isBounded limit t, fun t' h => Form.parse_congr h⟩, ?_⟩
  intro d hs raw htype
  refine ⟨fun boundary hboundary => ?_, fun hnone => decode_of_no_boundary htype hnone d raw⟩
  have h : IsMultipart hs boundary := ⟨htype, hboundary⟩
  exact ⟨_, h.decode_eq d raw, isBounded_partsJson d boundary raw⟩

/-- A limit of two: a form with an empty piece and conflicting names, which is the same as one that
goes on differently, a multipart body with three parts, and one without a boundary. -/
theorem two_limit_bounds :
    let raw : Text := "--b\r\nContent-Disposition: form-data; name=\"a[]\"\r\n\r\n1\r\n".toList ++
      "--b\r\nContent-Disposition: form-data; name=\"a[x]\"\r\n\r\n2\r\n".toList ++
      "--b\r\nContent-Disposition: form-data; name=\"c\"\r\n\r\n3\r\n--b--".toList
    Form.IsBounded 2 4 (Form.parse 2 "a=1&&a[]=2&a[]=3&b=4") ∧
      Form.parse 2 "a=1&a[]=2&c=5" = Form.parse 2 "a=1&&a[]=2&a[]=3&b=4" ∧
      (∃ m, decode ⟨2⟩ raw [⟨"Content-Type", ["multipart/form-data; boundary=b"]⟩] =
        .structured (.obj m) ∧ Form.IsBounded 2 3 m) ∧
      decode ⟨2⟩ raw [⟨"Content-Type", ["multipart/form-data"]⟩] = .raw raw := by
  intro raw
  obtain ⟨hforms, hparts⟩ := limit_bounds
  obtain ⟨hbounded, hsame⟩ := hforms 2 "a=1&&a[]=2&a[]=3&b=4"
  have hpieces : (Form.pieces "a=1&&a[]=2&a[]=3&b=4").length = 4 := by decide +kernel
  have hfields : (Multipart.fields "b" raw).length = 3 := by decide +kernel
  obtain ⟨m, hm, hmbounded⟩ := (hparts ⟨2⟩ [⟨"Content-Type", ["multipart/form-data; boundary=b"]⟩]
    raw (by decide +kernel)).1 "b" (by decide +kernel)
  rw [hpieces] at hbounded
  rw [hfields] at hmbounded
  exact ⟨hbounded, hsame _ (by decide +kernel), ⟨m, hm, hmbounded⟩,
    (hparts ⟨2⟩ _ raw (by decide +kernel)).2 (by decide +kernel)⟩

end Decoder

end HttpExchange
