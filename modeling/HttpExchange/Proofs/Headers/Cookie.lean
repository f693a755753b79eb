import HttpExchange.Headers.Cookie
import HttpExchange.Proofs.Headers.Pairs

/-!
# Cookies that are set and read

A cookie that is set is the first segment of a value of `Set-Cookie`, and nothing
but the first segment of such a value is read as a cookie. So an attribute is none,
whatever text it has. The new value stands last, and the first assignment to a name
is the one that counts, so a cookie that was there before stays what it was.

## Main definitions

* `others` — the fields of other names.

## Main results

* `cookie?_setCookie` — what is read of any cookie after one is set.
* `cookie_read_back` — a cookie is read back, and all else is left alone.
-/

namespace HttpExchange.Headers

/-! ## Segments -/

theorem assigned?_append (name : Text) (before after : List Text) :
    assigned? name (before ++ after) = (assigned? name before).or (assigned? name after) :=
  List.findSome?_append

/-- An assignment is to its name and to no other one. -/
theorem assigned?_assignment {name : Text} (hname : Text.trim name = name) (hequals : '=' ∉ name)
    (value other : Text) : assigned? other [name ++ '=' :: value] =
      if name = other then some (Text.trim value) else none := by
  have hsegment : Text.trim (name ++ '=' :: value) = name ++ '=' :: Text.trimEnd value := by
    rw [Text.trim_append_cons (by decide), Text.trimStart_eq_self_of_trim hname]
  rw [assigned?, List.findSome?_singleton, hsegment, Text.splitFirst_append hequals]
  dsimp only
  rw [hname, Text.trim_trimEnd]

/-- The first segment of a cookie that is set; its attributes come behind it. -/
theorem head?_splitOn_cookieText {name value : Text} (hname : ';' ∉ name) (hvalue : ';' ∉ value)
    (params : CookieParams) :
    (Text.splitOn ';' (cookieText name value params)).head? = some (name ++ '=' :: value) := by
  have hfirst : ';' ∉ name ++ '=' :: value := by
    rw [List.mem_append, List.mem_cons]
    rintro (hmem | heq | hmem)
    · exact hname hmem
    · cases heq
    · exact hvalue hmem
  rw [cookieText]
  generalize params.attributes = attributes
  cases attributes with
  | nil => rw [Text.joinWith, Text.splitOn_of_not_mem hfirst, List.head?_cons]
  | cons second attributes =>
      rw [Text.joinWith, List.append_assoc]
      change (Text.splitOn ';' (_ ++ ';' :: _)).head? = _
      rw [Text.splitOn_append hfirst, List.head?_cons]

/-! ## Fields -/

/-- The fields of other names. -/
def others (name : Text) (hs : Headers) : Headers := hs.filter fun h => h.key != keyOf name

theorem others_append (name value : Text) (hs : Headers) :
    others name (append name value hs) = others name hs := by
  rw [append_eq_edit]
  exact filter_edit (fun _ hkey => bne_eq_false_iff_eq.mpr hkey) _ hs

section SetCookie

variable {name value : Text} (hname : Text.trim name = name) (hequals : '=' ∉ name)
  (hsemicolon : ';' ∉ name) (hvalue : ';' ∉ value)

include hname hequals hsemicolon hvalue

/-- What is read of a cookie after one is set: what was read before, or else the new value. -/
theorem cookie?_setCookie (params : CookieParams) (hs : Headers) (other : Text) :
    cookie? other (setCookie name value params hs) =
      (cookie? other hs).or (if name = other then some (Text.trim value) else none) := by
  have hreceived : valuesOf "Cookie" (setCookie name value params hs) = valuesOf "Cookie" hs := by
    rw [setCookie, valuesOf_append, if_neg (by decide)]
  have hadded : valuesOf "Set-Cookie" (setCookie name value params hs) =
      valuesOf "Set-Cookie" hs ++ [cookieText name value params] := by
    rw [setCookie, valuesOf_append, if_pos rfl]
  have hlast : [cookieText name value params].filterMap (fun line =>
      (Text.splitOn ';' line).head?) = [name ++ '=' :: value] := by
    rw [List.filterMap_cons, head?_splitOn_cookieText hsemicolon hvalue]
    rfl
  simp only [cookie?, hreceived, hadded, List.filterMap_append, hlast, assigned?_append,
    assigned?_assignment hname hequals, Option.orElse_eq_orElse, Option.orElse_eq_or,
    Option.or_assoc]

/-- **A cookie is read back, and all else is left alone.** After a cookie is set, it has the value
that it had before, or else the new value without the blanks around it. Every other cookie is what
it was, also one whose name is that of an attribute, and so is every field but `Set-Cookie`, which
has one more value than before. -/
theorem cookie_read_back (params : CookieParams) (hs : Headers) :
    let after := setCookie name value params hs
    cookie? name after = some ((cookie? name hs).getD (Text.trim value)) ∧
      (∀ other, other ≠ name → cookie? other after = cookie? other hs) ∧
      others "Set-Cookie" after = others "Set-Cookie" hs ∧
      (∀ field : Text, keyOf field ≠ keyOf "Set-Cookie" →
        valuesOf field after = valuesOf field hs) ∧
      valuesOf "Set-Cookie" after = valuesOf "Set-Cookie" hs ++ [cookieText name value params] := by
  intro after
  have hcookie := cookie?_setCookie hname hequals hsemicolon hvalue params hs
  refine ⟨?_, fun other hne => ?_, ?_, fun field hfield => ?_, ?_⟩
  · rw [hcookie, if_pos rfl]
    cases cookie? name hs <;> rfl
  · rw [hcookie, if_neg hne.symm, Option.or_none]
  · exact others_append _ _ hs
  · exact (valuesOf_append _ _ _ hs).trans (if_neg hfield.symm)
  · exact (valuesOf_append _ _ _ hs).trans (if_pos rfl)

end SetCookie

/-- A session that is set next to one that was received, with attributes that read like cookies. -/
theorem session_read_back :
    let hs : Headers := [⟨"COOKIE", ["a = 1;; Path=/old; b"]⟩, ⟨"Host", ["example.test"]⟩]
    let params : CookieParams :=
      { expires := some "now; sid=stolen", path := some "/", domain := some "a=2\n; Domain=b" }
    let after := setCookie "s d" " = x\t" params hs
    cookie? "s d" after = some "= x" ∧ cookie? "Path" after = some "/old" ∧
      cookie? "Domain" after = none ∧ cookie? "sid" after = none ∧
      others "Set-Cookie" after = hs := by
  intro hs params after
  have hname : Text.trim "s d" = "s d".toList := by decide
  have hvalue : ';' ∉ " = x\t".toList := by decide
  obtain ⟨hself, hother, hfields, -⟩ :=
    cookie_read_back hname (by decide) (by decide) hvalue params hs
  exact ⟨hself.trans (by decide +kernel), (hother "Path" (by decide)).trans (by decide +kernel),
    (hother "Domain" (by decide)).trans (by decide +kernel),
    (hother "sid" (by decide)).trans (by decide +kernel), hfields.trans (by decide +kernel)⟩

end HttpExchange.Headers
