import HttpExchange.Proofs.Uri.Resolve

/-!
# URIs written and read again

A URI is read in one of four forms, but it is written in one of three: a host
with a port and no scheme gets two slashes in front, whether it had them or not.
Each of the three is read as itself again. No scheme has a colon in it, so the
first `://` of a text that begins with a scheme is the one behind the scheme;
what begins with two slashes has no scheme in front of any `://`; and a scheme
without an authority stays one, because up to the first delimiter nothing has
changed of what follows it. The one thing that is lost is a password without a
user, which is not written.

## Main definitions

* `IsLead` — what can precede the path of a URI that was read, and before what.
* `tidyTail` — path, query and fragment as they are written again.
* `written` — a URI as its text shows it.

## Main results

* `isLead_of_readHead?` — what is read before a path.
* `readHead?_leadText` — what was written before a path is found again.
* `parse_text_parse` — the text of a URI that was read gives the same URI, and the same text.
-/

namespace HttpExchange.Uri

/-! ## The parts of a text -/

/-- A URI as its text shows it: a password without a user is not written. -/
def written (u : Uri) : Uri := { u with password := if u.user.isSome then u.password else none }

theorem text_written (u : Uri) : u.written.text = u.text := by
  obtain ⟨scheme, user, password, host, port, path, query, fragment⟩ := u
  cases user <;> rfl

/-- What is written before the path. -/
def leadText (u : Uri) : Text :=
  around [] u.scheme ":" ++ around ("//" ++ userInfo u.user u.password) u.authority? []

/-- The fragment of a target: what follows the first number sign, unless that is empty. -/
def fragmentOf (t : Text) : Option Text := nonEmpty ((t.dropWhile (· != '#')).drop 1)

/-- Path, query and fragment of a target as they are written again: without a query or a fragment
that is empty. -/
def tidyTail (t : Text) : Text :=
  pathOf t ++ around "?" (queryOf t) [] ++ around "#" (fragmentOf t) []

theorem readTail_eq (u : Uri) (t : Text) :
    readTail u t =
      { u with path := nonEmpty (pathOf t), query := queryOf t, fragment := fragmentOf t } := by
  rw [← readTail_path u t, ← readTail_query u t]
  simp only [readTail, splitTail_eq, fragmentOf]

/-! ## Path, query and fragment -/

theorem forall_mem_pathOf {t : Text} : ∀ c ∈ pathOf t, (c != '?' && c != '#') = true :=
  List.all_eq_true.mp List.all_takeWhile

theorem forall_mem_queryOf {t query : Text} (h : queryOf t = some query) :
    ∀ c ∈ query, (c != '#') = true := by
  obtain ⟨rfl, -⟩ := nonEmpty_eq_some h
  intro c hc
  have hmem : c ∈ t.takeWhile (· != '#') :=
    (List.dropWhile_suffix _).subset ((List.drop_suffix 1 _).subset hc)
  exact List.all_eq_true.mp List.all_takeWhile c hmem

/-- A component that is written behind its delimiter is found behind it. -/
theorem nonEmpty_drop_around (c : Char) (t : Text) :
    nonEmpty ((around [c] (nonEmpty t) []).drop 1) = nonEmpty t := by
  by_cases ht : t = []
  · rw [ht]
    rfl
  · have hsome := nonEmpty_of_ne_nil ht
    rw [hsome]
    simpa [around] using hsome

theorem head?_around {c d : Char} {component : Option Text}
    (h : d ∈ (around [c] component []).head?) : d = c := by
  cases component with
  | none => cases h
  | some t => exact (Option.some.inj h).symm

/-- What is written behind the path begins with one of the characters that end a path. -/
theorem head?_query_fragment {query fragment : Option Text} {c : Char}
    (h : c ∈ (around "?" query [] ++ around "#" fragment []).head?) : c = '?' ∨ c = '#' := by
  cases query with
  | none => exact .inr (head?_around h)
  | some t => exact .inl (Option.some.inj h).symm

theorem pathOf_tidyTail (t : Text) : pathOf (tidyTail t) = pathOf t := by
  rw [tidyTail, List.append_assoc]
  refine Text.takeWhile_append forall_mem_pathOf fun c hc => ?_
  rcases head?_query_fragment hc with rfl | rfl <;> rfl

/-- The number sign that is written is the first one. -/
theorem forall_mem_path_query {t : Text} :
    ∀ c ∈ pathOf t ++ around "?" (queryOf t) [], (c != '#') = true := by
  have hpath : ∀ c ∈ pathOf t, (c != '#') = true :=
    fun c hc => (Bool.and_eq_true _ _ ▸ forall_mem_pathOf c hc).2
  have hquery : ∀ c ∈ around "?" (queryOf t) [], (c != '#') = true :=
    forall_mem_around (by decide) (fun _ => forall_mem_queryOf) (List.forall_mem_nil _)
  exact List.forall_mem_append.mpr ⟨hpath, hquery⟩

theorem bne_head?_fragment {fragment : Option Text} :
    ∀ c ∈ (around "#" fragment []).head?, (c != '#') = false := by
  intro c hc
  rw [head?_around hc]
  rfl

theorem queryOf_tidyTail (t : Text) : queryOf (tidyTail t) = queryOf t := by
  have hpath : ∀ c ∈ pathOf t, (c != '?') = true :=
    fun c hc => (Bool.and_eq_true _ _ ▸ forall_mem_pathOf c hc).1
  have hquery : ∀ c ∈ (around "?" (queryOf t) []).head?, (c != '?') = false := by
    intro c hc
    rw [head?_around hc]
    rfl
  rw [queryOf, tidyTail, Text.takeWhile_append forall_mem_path_query bne_head?_fragment,
    Text.dropWhile_append hpath hquery]
  exact nonEmpty_drop_around '?' _

theorem fragmentOf_tidyTail (t : Text) : fragmentOf (tidyTail t) = fragmentOf t := by
  rw [fragmentOf, tidyTail, Text.dropWhile_append forall_mem_path_query bne_head?_fragment]
  exact nonEmpty_drop_around '#' _

/-- **Path, query and fragment are read as the same ones again.** -/
theorem readTail_tidyTail (u : Uri) (t : Text) : readTail u (tidyTail t) = readTail u t := by
  rw [readTail_eq, readTail_eq, pathOf_tidyTail, queryOf_tidyTail, fragmentOf_tidyTail]

theorem unblank_tidyTail {t : Text} (h : ∀ c ∈ t, Text.isBlank c = false) :
    ∀ c ∈ tidyTail t, Text.isBlank c = false := by
  have hnil : ∀ c ∈ ([] : Text), Text.isBlank c = false := List.forall_mem_nil _
  have hpath : ∀ c ∈ pathOf t, Text.isBlank c = false :=
    fun c hc => h c ((List.takeWhile_prefix _).subset hc)
  have hquery : ∀ query ∈ queryOf t, ∀ c ∈ query, Text.isBlank c = false := by
    intro query hquery c hc
    obtain ⟨rfl, -⟩ := nonEmpty_eq_some hquery
    have hmem := (List.dropWhile_suffix _).subset ((List.drop_suffix 1 _).subset hc)
    exact h c ((List.takeWhile_prefix _).subset hmem)
  have hfragment : ∀ fragment ∈ fragmentOf t, ∀ c ∈ fragment, Text.isBlank c = false := by
    intro fragment hfragment c hc
    obtain ⟨rfl, -⟩ := nonEmpty_eq_some hfragment
    exact h c ((List.dropWhile_suffix _).subset ((List.drop_suffix 1 _).subset hc))
  simp only [tidyTail, List.forall_mem_append]
  exact ⟨⟨hpath, forall_mem_around (by decide) hquery hnil⟩,
    forall_mem_around (by decide) hfragment hnil⟩

/-! ## What precedes the path -/

/-- What can precede the path of a URI that was read, when `rest` is what follows: an authority,
with or without a scheme, up to the delimiter that ends it; or a scheme alone, which neither two
slashes nor a port follow. -/
inductive IsLead (rest : Text) : Uri → Prop where
  | authority {scheme user password : Option Text} {host : Text} {port : Option UInt16} :
      (∀ s ∈ scheme, isScheme s = true) → IsUserInfo user password → IsHost host →
      Text.IsWord host → (∀ c ∈ rest.head?, endsAuthority c = true) →
      IsLead rest { scheme, user, password, host := some host, port }
  | scheme {s : Text} : isScheme s = true → Text.startsWith rest "//" = false →
      isPort (rest.takeWhile (!endsAuthority ·)) = false → IsLead rest { scheme := some s }

theorem isUserInfo_splitUser {t : Text} (hplain : ∀ c ∈ t, Text.isBlank c = false)
    (hends : ∀ c ∈ t, endsAuthority c = false) :
    IsUserInfo (splitUser t).1 (splitUser t).2 := by
  have hword : ∀ {piece name : Text}, piece <:+: t → nonEmpty piece = some name →
      Text.IsWord name ∧ ∀ c ∈ name, endsAuthority c = false := by
    intro piece name hpiece hname
    obtain ⟨rfl, hne⟩ := nonEmpty_eq_some hname
    exact ⟨⟨hne, fun c hc => hplain c (hpiece.subset hc)⟩,
      fun c hc => hends c (hpiece.subset hc)⟩
  unfold splitUser
  cases hsplit : Text.splitFirst ':' t with
  | none =>
      have hcolon := Text.splitFirst_eq_none_iff.mp hsplit
      refine ⟨fun name hname => ?_, fun _ hname => nomatch hname⟩
      obtain ⟨rfl, -⟩ := nonEmpty_eq_some hname
      obtain ⟨hname, hfree⟩ := hword (List.infix_refl _) hname
      exact ⟨hname, hcolon, hfree⟩
  | some parts =>
      have ht := Text.eq_of_splitFirst hsplit
      have hcolon := Text.not_mem_of_splitFirst hsplit
      have hbefore : parts.1 <:+: t := ⟨[], ':' :: parts.2, ht.symm⟩
      have hafter : parts.2 <:+: t := ⟨parts.1 ++ [':'], [], by rw [ht]; simp⟩
      refine ⟨fun name hname => ?_, fun _ hpassword => hword hafter hpassword⟩
      obtain ⟨hword, hfree⟩ := hword hbefore hname
      obtain ⟨rfl, -⟩ := nonEmpty_eq_some hname
      exact ⟨hword, hcolon, hfree⟩

theorem isUserInfo_splitAuthority {t : Text} (hplain : ∀ c ∈ t, Text.isBlank c = false)
    (hends : ∀ c ∈ t, endsAuthority c = false) :
    IsUserInfo (splitAuthority t).1.1 (splitAuthority t).1.2 := by
  unfold splitAuthority
  cases hsplit : Text.splitLast '@' t with
  | none => exact .none
  | some parts =>
      obtain ⟨ht, -⟩ := Text.eq_of_splitLast hsplit
      have hbefore : ∀ c ∈ parts.1, c ∈ t := by
        intro c hc
        rw [ht]
        exact List.mem_append_left _ hc
      exact isUserInfo_splitUser (fun c hc => hplain c (hbefore c hc))
        fun c hc => hends c (hbefore c hc)

/-- **What is read before a path**, in a text without blanks. -/
theorem isLead_of_readHead? {t rest : Text} {u : Uri} (hplain : ∀ c ∈ t, Text.isBlank c = false)
    (h : readHead? t = some (u, rest)) : IsLead rest u := by
  rcases readHead?_cases h with ⟨scheme, lead, hscheme, hlead, hread⟩ |
    ⟨scheme, hscheme, -, hslashes, hport, rfl⟩
  · obtain ⟨user, password, host, port, rfl, rfl, hhost, hpiece, hinfo⟩ :=
      readAuthority?_eq_some hread
    have hinside : ∀ c ∈ lead, Text.isBlank c = false := fun c hc => hplain c (hlead.subset hc)
    have hword : Text.IsWord host := ⟨hhost.ne_nil, fun c hc => hinside c (hpiece.subset hc)⟩
    have huser : IsUserInfo user password := by
      have hsplit := isUserInfo_splitAuthority (t := lead.takeWhile (!endsAuthority ·))
        (fun c hc => hinside c ((List.takeWhile_prefix _).subset hc))
        fun c hc => by simpa using List.mem_takeWhile_imp hc
      rwa [← hinfo] at hsplit
    refine .authority hscheme huser hhost hword fun c hc => ?_
    simpa using Text.head?_dropWhile hc
  · exact .scheme hscheme hslashes hport

/-! ## Up to the first delimiter -/

/-- The beginning of a text up to a delimiter is that of its path up to a slash. -/
theorem takeWhile_endsAuthority (t : Text) :
    t.takeWhile (!endsAuthority ·) = (pathOf t).takeWhile (· != '/') := by
  rw [pathOf, List.takeWhile_takeWhile]
  congr 1
  funext c
  rw [Bool.eq_iff_iff]
  simp [endsAuthority, and_assoc]

theorem startsWith_pathOf (t : Text) :
    Text.startsWith (pathOf t) "//" = Text.startsWith t "//" :=
  Text.startsWith_takeWhile (by decide) t

theorem head?_endsAuthority_iff {t : Text} :
    (∀ c ∈ t.head?, endsAuthority c = true) ↔ t.takeWhile (!endsAuthority ·) = [] := by
  cases t with
  | nil => simp
  | cons c t => simp [List.takeWhile_cons]

/-- What precedes a path depends on nothing but the path. -/
theorem IsLead.of_pathOf {rest rest' : Text} {u : Uri} (h : IsLead rest u)
    (hpath : pathOf rest' = pathOf rest) : IsLead rest' u := by
  have hlead : rest'.takeWhile (!endsAuthority ·) = rest.takeWhile (!endsAuthority ·) := by
    rw [takeWhile_endsAuthority, takeWhile_endsAuthority, hpath]
  cases h with
  | authority hscheme hinfo hhost hword hrest =>
      refine .authority hscheme hinfo hhost hword (head?_endsAuthority_iff.mpr ?_)
      rw [hlead]
      exact head?_endsAuthority_iff.mp hrest
  | scheme hscheme hslashes hport =>
      refine .scheme hscheme ?_ ?_
      · rw [← startsWith_pathOf, hpath, startsWith_pathOf]
        exact hslashes
      · rw [hlead]
        exact hport

/-! ## What was written is read -/

/-- What is read behind two slashes. -/
theorem readHead?_slashes (t : Text) : readHead? ("//" ++ t) = readAuthority? {} t := by
  have hslashed : Text.afterPrefix? "//" ("//" ++ t) = some t := Text.afterPrefix?_append _ t
  rw [readHead?_of_slash rfl, hslashed]
  rfl

theorem readLead?_colon {scheme rest : Text} (hscheme : isScheme scheme = true)
    (hport : isPort (rest.takeWhile (!endsAuthority ·)) = false) :
    readLead? (scheme ++ ':' :: rest) = some ({ scheme := some scheme }, rest) := by
  have hkept : ∀ c ∈ scheme, (!endsAuthority c) = true := by
    intro c hc
    have hchar := isSchemeChar_of_isScheme hscheme c hc
    cases hends : endsAuthority c with
    | false => rfl
    | true =>
        simp only [endsAuthority, Bool.or_eq_true, beq_iff_eq] at hends
        rcases hends with (rfl | rfl) | rfl <;> cases hchar
  have htake : (scheme ++ ':' :: rest).takeWhile (!endsAuthority ·) =
      scheme ++ ':' :: rest.takeWhile (!endsAuthority ·) := by
    rw [List.takeWhile_append_of_pos hkept]
    rfl
  have hdrop : (scheme ++ ':' :: rest).drop (scheme.length + 1) = rest := by simp
  rw [readLead?, htake, Text.splitFirst_append (colon_not_mem_of_isScheme hscheme)]
  show (if isPort (rest.takeWhile (!endsAuthority ·)) then _ else _) = _
  rw [hport, hscheme, hdrop]
  rfl

/-- A scheme alone is read as such. The phrase after a scheme is not found, for it has the first
colon in it, and two slashes do not follow that. -/
theorem readHead?_colon {scheme rest : Text} (hscheme : isScheme scheme = true)
    (hslashes : Text.startsWith rest "//" = false)
    (hport : isPort (rest.takeWhile (!endsAuthority ·)) = false) :
    readHead? (scheme ++ ':' :: rest) = some ({ scheme := some scheme }, rest) := by
  have hcut : ∀ s lead, Text.cut "://" (scheme ++ ':' :: rest) = some (s, lead) →
      isScheme s = false := by
    intro s lead hfound
    refine Bool.not_eq_true _ |>.mp fun hs => ?_
    have heq : scheme ++ ':' :: rest = s ++ ':' :: ("//".toList ++ lead) := by
      rw [Text.eq_of_cut hfound]
      simp
    obtain ⟨-, rfl⟩ := Text.append_cons_inj (colon_not_mem_of_isScheme hscheme)
      (colon_not_mem_of_isScheme hs) heq
    cases hslashes
  have hslashed : Text.afterPrefix? "//" (scheme ++ ':' :: rest) = none := by
    cases scheme with
    | nil => cases hscheme
    | cons c cs =>
        refine Text.afterPrefix?_cons_of_ne ?_ _ _
        rintro rfl
        exact slash_not_mem_of_isScheme hscheme List.mem_cons_self
  rw [readHead?_of_forall_cut hcut, hslashed]
  exact readLead?_colon hscheme hport

/-- **What was written before a path is found again.** -/
theorem readHead?_leadText {rest : Text} {u : Uri} (h : IsLead rest u) :
    readHead? (u.leadText ++ rest) = some (u.written, rest) := by
  cases h with
  | @authority scheme user password host port hscheme hinfo hhost hword hrest =>
      have hread := readAuthority?_append hinfo hhost port { scheme } hrest
      cases scheme with
      | none =>
          have htext : leadText { user, password, host := some host, port } ++ rest =
              "//".toList ++ (userInfo user password ++ hostPort host port ++ rest) := by
            simp [leadText, around, authority?_eq]
          rw [htext, readHead?_slashes]
          exact hread
      | some s =>
          have htext : leadText { scheme := some s, user, password, host := some host, port } ++
                rest =
              s ++ "://".toList ++ (userInfo user password ++ hostPort host port ++ rest) := by
            simp [leadText, around, authority?_eq]
          rw [htext, readHead?_append (hscheme s rfl)]
          exact hread
  | @scheme s hscheme hslashes hport =>
      have htext : leadText { scheme := some s } ++ rest = s ++ ':' :: rest := by
        simp [leadText, around, authority?_eq]
      rw [htext]
      exact readHead?_colon hscheme hslashes hport

theorem unblank_of_isScheme {s : Text} (h : isScheme s = true) :
    ∀ c ∈ s, Text.isBlank c = false := by
  intro c hc
  have hchar := isSchemeChar_of_isScheme h c hc
  simp only [isSchemeChar, Char.isAlphanum, Bool.or_eq_true, beq_iff_eq] at hchar
  rcases hchar with (((halpha | hdigit) | rfl) | rfl) | rfl
  · exact Text.isBlank_of_isAlpha halpha
  · exact Text.isBlank_of_isDigit hdigit
  all_goals decide

theorem IsLead.unblank {rest : Text} {u : Uri} (h : IsLead rest u) :
    ∀ c ∈ u.leadText, Text.isBlank c = false := by
  have hnil : ∀ c ∈ ([] : Text), Text.isBlank c = false := List.forall_mem_nil _
  cases h with
  | @authority scheme user password host port hscheme hinfo hhost hword hrest =>
      have hbefore : ∀ c ∈ around [] scheme ":", Text.isBlank c = false :=
        forall_mem_around hnil (fun s hs => unblank_of_isScheme (hscheme s hs)) (by decide)
      have huser : ∀ c ∈ userInfo user password, Text.isBlank c = false :=
        forall_mem_userInfo (fun t ht => (hinfo.user t ht).1.unblank)
          (fun t ht => (hinfo.password t ht).1.unblank) (by decide) (by decide)
      have hplace : ∀ c ∈ hostPort host port, Text.isBlank c = false :=
        fun _ hc => unblank_hostPort hword.unblank hc
      have hslashes : ∀ c ∈ "//".toList ++ userInfo user password, Text.isBlank c = false :=
        List.forall_mem_append.mpr ⟨by decide, huser⟩
      refine List.forall_mem_append.mpr ⟨hbefore, forall_mem_around hslashes ?_ hnil⟩
      exact fun t ht => Option.some.inj ht ▸ hplace
  | scheme hscheme hslashes hport =>
      refine List.forall_mem_append.mpr ⟨?_, hnil⟩
      refine forall_mem_around hnil (fun s hs => ?_) (by decide)
      exact Option.some.inj hs ▸ unblank_of_isScheme hscheme

/-- A path that was read behind an authority begins with a slash. -/
theorem startsWith_pathOf_slash {t : Text} (h : ∀ c ∈ t.head?, endsAuthority c = true)
    (hne : pathOf t ≠ []) : Text.startsWith (pathOf t) "/" = true := by
  have hslash : Text.startsWith (pathOf t) "/" = Text.startsWith t "/" :=
    Text.startsWith_takeWhile (by decide) t
  rw [hslash]
  cases t with
  | nil => exact absurd rfl hne
  | cons c t =>
      have hc := h c rfl
      simp only [endsAuthority, Bool.or_eq_true, beq_iff_eq] at hc
      rcases hc with (rfl | rfl) | rfl
      · rfl
      · exact absurd rfl hne
      · exact absurd rfl hne

/-- No slash has to be put before a path that was read. -/
theorem pathText_readTail {rest : Text} {u : Uri} (h : IsLead rest u) :
    (readTail u rest).pathText = pathOf rest := by
  rw [readTail_eq, pathText]
  by_cases hpath : pathOf rest = []
  · rw [hpath]
    rfl
  · rw [nonEmpty_of_ne_nil hpath]
    cases h with
    | authority hscheme hinfo hhost hword hrest =>
        dsimp only
        rw [startsWith_pathOf_slash hrest hpath]
        rfl
    | scheme hscheme hslashes hport => rfl

theorem text_readTail {rest : Text} {u : Uri} (h : IsLead rest u) :
    (readTail u rest).text = u.leadText ++ tidyTail rest := by
  have hpath := pathText_readTail h
  rw [readTail_eq] at hpath ⊢
  rw [text, hpath]
  simp only [tidyTail, leadText, List.append_assoc]
  rfl

/-- **The text of a URI that was read gives the same URI again**, but for a password without a user,
and therefore the same text again. -/
theorem parse_text_parse (t : Text) :
    parse (parse t).text = (parse t).written ∧ (parse (parse t).text).text = (parse t).text := by
  have hparse : parse (parse t).text = (parse t).written := by
    rcases parse_cases t with hempty | ⟨u, rest, hplain, hhead, heq⟩
    · rw [hempty]
      decide
    · have hlead := isLead_of_readHead? hplain hhead
      have hrest : ∀ c ∈ rest, Text.isBlank c = false :=
        fun c hc => hplain c ((readHead?_suffix hhead).subset hc)
      have hfound := readHead?_leadText (hlead.of_pathOf (pathOf_tidyTail rest))
      have hunblank : ∀ c ∈ u.leadText ++ tidyTail rest, Text.isBlank c = false :=
        List.forall_mem_append.mpr ⟨hlead.unblank, unblank_tidyTail hrest⟩
      have hne : u.leadText ++ tidyTail rest ≠ [] := by
        intro hnil
        rw [hnil] at hfound
        cases hfound
      rw [heq, text_readTail hlead, parse_of_readHead? hne hunblank hfound, readTail_tidyTail]
      rfl
  refine ⟨hparse, ?_⟩
  rw [hparse, text_written]

/-- A host with a port is written behind two slashes, and without a query and a fragment that are
empty. -/
example : (parse "a@h:080/p?#").text = "//a@h:80/p".toList := by decide +kernel

end HttpExchange.Uri
