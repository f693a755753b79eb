import HttpExchange.Proofs.Uri.Authority

/-!
# Paths behind an authority

A path that is put behind a scheme and an authority is found again: the authority
ends where the path begins. The path of the URI ends at the first question mark
or number sign, and the query is what stands between a question mark that no
number sign precedes and the next number sign.

## Main definitions

* `pathOf`, `queryOf` — the pieces of what follows an authority.
* `IsUserInfo`, `userInfo` — what stands before a host, and its text.

## Main results

* `readAuthority?_append` — an authority is read up to the path that follows it.
* `splitTail_eq` — the pieces of what follows the authority.
* `isWord_path_of_parse`, `unblank_query_of_parse` — a URI that was read has no blanks.
* `parse_append` — a path behind a scheme and an authority.
* `parse_path` — a path alone is no URI.
-/

namespace HttpExchange.Uri

/-! ## What follows the authority -/

theorem splitTail_eq (sep : Char) (t : Text) :
    splitTail sep t = (t.takeWhile (· != sep), nonEmpty ((t.dropWhile (· != sep)).drop 1)) := by
  have hkept : ∀ {a : Text}, sep ∉ a → ∀ c ∈ a, (c != sep) = true :=
    fun h c hc => bne_iff_ne.mpr fun heq => h (heq ▸ hc)
  have hsep : (sep != sep) = false := bne_self_eq_false sep
  unfold splitTail
  cases hsplit : Text.splitFirst sep t with
  | none =>
      have hall := hkept (Text.splitFirst_eq_none_iff.mp hsplit)
      rw [List.takeWhile_eq_self_iff.mpr hall, List.dropWhile_eq_nil_iff.mpr hall]
      rfl
  | some parts =>
      have hbefore := hkept (Text.not_mem_of_splitFirst hsplit)
      rw [Text.eq_of_splitFirst hsplit, Text.takeWhile_append_cons hbefore hsep,
        Text.dropWhile_append_cons hbefore hsep]
      rfl

/-- The path of a target: what precedes the first question mark or number sign. -/
def pathOf (t : Text) : Text := t.takeWhile fun c => c != '?' && c != '#'

/-- The query of a target: what stands between a question mark that no number sign precedes and the
next number sign or the end, unless that is empty. -/
def queryOf (t : Text) : Option Text :=
  nonEmpty (((t.takeWhile (· != '#')).dropWhile (· != '?')).drop 1)

theorem readTail_path (u : Uri) (t : Text) : (readTail u t).path = nonEmpty (pathOf t) := by
  simp only [readTail, splitTail_eq, List.takeWhile_takeWhile, pathOf, Bool.decide_and,
    Bool.decide_eq_true]

theorem readTail_query (u : Uri) (t : Text) : (readTail u t).query = queryOf t := by
  simp only [readTail, splitTail_eq, queryOf]

/-! ## What a URI that was read is made of -/

theorem readHead?_suffix {t rest : Text} {u : Uri} (h : readHead? t = some (u, rest)) :
    rest <:+ t := by
  rcases readHead?_cases h with ⟨s, lead, -, hlead, hread⟩ | ⟨scheme, -, rfl, -, -, -⟩
  · obtain ⟨_, _, _, _, -, rfl, -, -, -⟩ := readAuthority?_eq_some hread
    exact (List.dropWhile_suffix _).trans hlead
  · exact (List.suffix_cons _ _).trans (List.suffix_append scheme _)

theorem nonEmpty_eq_some {t t' : Text} (h : nonEmpty t = some t') : t' = t ∧ t ≠ [] := by
  unfold nonEmpty at h
  split at h
  · cases h
  · next hne => exact ⟨(Option.some.inj h).symm, by simpa using hne⟩

/-- The path of a URI that was read is a word. -/
theorem isWord_path_of_parse {t path : Text} (h : (parse t).path = some path) :
    Text.IsWord path := by
  rcases parse_cases t with hempty | ⟨lead, rest, hplain, hhead, heq⟩
  · rw [hempty] at h
    cases h
  · rw [heq, readTail_path] at h
    obtain ⟨rfl, hne⟩ := nonEmpty_eq_some h
    refine ⟨hne, fun c hc => hplain c ((readHead?_suffix hhead).subset ?_)⟩
    exact (List.takeWhile_prefix _).subset hc

/-- The query of a URI that was read has no blanks. -/
theorem unblank_query_of_parse {t query : Text} (h : (parse t).query = some query) :
    ∀ c ∈ query, Text.isBlank c = false := by
  rcases parse_cases t with hempty | ⟨lead, rest, hplain, hhead, heq⟩
  · rw [hempty] at h
    cases h
  · rw [heq, readTail_query] at h
    obtain ⟨rfl, -⟩ := nonEmpty_eq_some h
    refine fun c hc => hplain c ((readHead?_suffix hhead).subset ?_)
    exact (List.takeWhile_prefix _).subset
      ((List.dropWhile_suffix _).subset ((List.drop_suffix _ _).subset hc))

/-- The authority of a URI that was read has no blanks. -/
theorem unblank_authority_of_parse {t authority : Text}
    (h : (parse t).authority? = some authority) : ∀ c ∈ authority, Text.isBlank c = false := by
  rw [authority?_eq] at h
  obtain ⟨host, hhost, rfl⟩ := Option.map_eq_some_iff.mp h
  exact fun c hc => unblank_hostPort (isHost_of_parse hhost).2 hc

/-! ## Where an authority ends -/

theorem IsHost.plain_hostPort {host : Text} (h : IsHost host) {port : Option UInt16} {c : Char}
    (hc : c ∈ hostPort host port) : endsAuthority c = false ∧ c ≠ '@' := by
  rcases mem_hostPort hc with hc | rfl | hdigit
  · exact h.plain c hc
  · decide
  · have hother : ∀ d : Char, d.isDigit = false → c ≠ d := by
      rintro d hd rfl
      rw [hdigit] at hd
      cases hd
    have hdelimiters : endsAuthority c = false := by
      simp [endsAuthority, hother '/' (by decide), hother '?' (by decide), hother '#' (by decide)]
    exact ⟨hdelimiters, hother '@' (by decide)⟩

/-- What stands before a host: words without delimiters, the first of them without a colon. -/
structure IsUserInfo (user password : Option Text) : Prop where
  user : ∀ t ∈ user, Text.IsWord t ∧ ':' ∉ t ∧ ∀ c ∈ t, endsAuthority c = false
  password : ∀ t ∈ password, Text.IsWord t ∧ ∀ c ∈ t, endsAuthority c = false

theorem IsUserInfo.none : IsUserInfo none none where
  user := fun _ ht => nomatch ht
  password := fun _ ht => nomatch ht

/-- The text of a user with a password, up to the host. -/
def userInfo (user password : Option Text) : Text :=
  around [] (user.map fun user => user ++ around ":" password []) "@"

/-- A user and a password are found again before a host. Without a user there is no password. -/
theorem splitAuthority_append {user password : Option Text} (h : IsUserInfo user password)
    {place : Text} (hplace : '@' ∉ place) :
    splitAuthority (userInfo user password ++ place) =
      ((user, if user.isSome then password else none), place) := by
  cases user with
  | none => exact splitAuthority_of_not_mem hplace
  | some user =>
      obtain ⟨hword, hcolon, -⟩ := h.user user rfl
      cases password with
      | none =>
          have htext : userInfo (some user) none ++ place = user ++ '@' :: place := by
            simp [userInfo, around]
          have hsplit : splitUser user = (some user, none) := by
            rw [splitUser, Text.splitFirst_eq_none_iff.mpr hcolon]
            exact Prod.ext (nonEmpty_of_ne_nil hword.nonempty) rfl
          rw [htext, splitAuthority, Text.splitLast_append hplace]
          exact Prod.ext hsplit rfl
      | some password =>
          have htext : userInfo (some user) (some password) ++ place =
              (user ++ ':' :: password) ++ '@' :: place := by
            simp [userInfo, around]
          have hsplit : splitUser (user ++ ':' :: password) = (some user, some password) := by
            rw [splitUser, Text.splitFirst_append hcolon]
            have hpassword := (h.password password rfl).1
            exact Prod.ext (nonEmpty_of_ne_nil hword.nonempty)
              (nonEmpty_of_ne_nil hpassword.nonempty)
          rw [htext, splitAuthority, Text.splitLast_append hplace]
          exact Prod.ext hsplit rfl

theorem forall_mem_around {P : Char → Prop} {before after : Text} {component : Option Text}
    (hbefore : ∀ c ∈ before, P c) (hcomponent : ∀ t ∈ component, ∀ c ∈ t, P c)
    (hafter : ∀ c ∈ after, P c) : ∀ c ∈ around before component after, P c := by
  cases component with
  | none => exact List.forall_mem_nil P
  | some t =>
      simp only [around, List.forall_mem_append]
      exact ⟨⟨hbefore, hcomponent t rfl⟩, hafter⟩

/-- The characters before a host are those of the user and of the password, with their
delimiters. -/
theorem forall_mem_userInfo {P : Char → Prop} {user password : Option Text}
    (huser : ∀ t ∈ user, ∀ c ∈ t, P c) (hpassword : ∀ t ∈ password, ∀ c ∈ t, P c)
    (hcolon : P ':') (hat : P '@') : ∀ c ∈ userInfo user password, P c := by
  have hnil : ∀ c ∈ ([] : Text), P c := List.forall_mem_nil P
  refine forall_mem_around hnil (fun t ht => ?_) (List.forall_mem_singleton.mpr hat)
  obtain ⟨name, hname, rfl⟩ := Option.map_eq_some_iff.mp ht
  have hlater := forall_mem_around (List.forall_mem_singleton.mpr hcolon) hpassword hnil
  exact List.forall_mem_append.mpr ⟨huser name hname, hlater⟩

/-- An authority is read up to the delimiter that follows it. -/
theorem readAuthority?_append {user password : Option Text} (hinfo : IsUserInfo user password)
    {host : Text} (h : IsHost host) (port : Option UInt16) (u : Uri) {rest : Text}
    (hrest : ∀ c ∈ rest.head?, endsAuthority c = true) :
    readAuthority? u (userInfo user password ++ hostPort host port ++ rest) =
      some ({ u with user, password := if user.isSome then password else none,
                     host := some host, port }, rest) := by
  have hinside : ∀ c ∈ userInfo user password, endsAuthority c = false :=
    forall_mem_userInfo (fun t ht => (hinfo.user t ht).2.2)
      (fun t ht => (hinfo.password t ht).2) (by decide) (by decide)
  have hkept : ∀ c ∈ userInfo user password ++ hostPort host port, (!endsAuthority c) = true := by
    intro c hc
    rcases List.mem_append.mp hc with hc | hc
    · rw [hinside c hc]
      rfl
    · rw [(h.plain_hostPort hc).1]
      rfl
  have hstop : ∀ c ∈ rest.head?, (!endsAuthority c) = false := by
    intro c hc
    rw [hrest c hc]
    rfl
  have hat : '@' ∉ hostPort host port := fun hmem => (h.plain_hostPort hmem).2 rfl
  rw [readAuthority?_eq, Text.takeWhile_append hkept hstop, Text.dropWhile_append hkept hstop,
    splitAuthority_append hinfo hat]
  simp only [splitHostPort?_hostPort h, Option.bind_some, h.valid, if_true]

/-- What is read behind a scheme. -/
theorem readHead?_append {scheme : Text} (h : isScheme scheme = true) (t : Text) :
    readHead? (scheme ++ "://".toList ++ t) = readAuthority? { scheme := some scheme } t :=
  readHead?_of_cut (Text.cut_append (colon_not_mem_of_isScheme h) "//".toList t) h

/-- A text that begins with a slash has no scheme in it. -/
theorem readHead?_of_slash {t : Text} (h : t.head? = some '/') :
    readHead? t = (Text.afterPrefix? "//" t).elim (readLead? t) (readAuthority? {}) := by
  refine readHead?_of_forall_cut fun scheme lead hcut => ?_
  refine Bool.not_eq_true _ |>.mp fun hscheme => slash_not_mem_of_isScheme hscheme ?_
  rw [Text.eq_of_cut hcut] at h
  cases scheme with
  | nil => cases hscheme
  | cons c cs =>
      obtain rfl : c = '/' := Option.some.inj h
      exact List.mem_cons_self

/-- A scheme that requests can have by default. -/
def IsWebScheme (scheme : Text) : Prop := scheme = "http".toList ∨ scheme = "https".toList

theorem IsWebScheme.isScheme {scheme : Text} (h : IsWebScheme scheme) : isScheme scheme = true := by
  rcases h with rfl | rfl <;> decide

theorem IsWebScheme.unblank {scheme : Text} (h : IsWebScheme scheme) :
    ∀ c ∈ scheme ++ "://".toList, Text.isBlank c = false := by
  rw [Text.unblank_iff]
  rcases h with rfl | rfl <;> decide

theorem parse_of_readHead? {t rest : Text} {lead : Uri} (hne : t ≠ [])
    (hplain : ∀ c ∈ t, Text.isBlank c = false) (h : readHead? t = some (lead, rest)) :
    parse t = readTail lead rest := by
  have hany : t.any Text.isBlank = false := Text.unblank_iff.mp hplain
  have hempty : t.isEmpty = false := List.isEmpty_eq_false_iff.mpr hne
  simp [parse, parse?, Text.trim_of_unblank hplain, hany, hempty, h]

/-- **A path behind a scheme and an authority.** The authority that a URI had is found again, and
what follows it is taken apart into path and query. -/
theorem parse_append {scheme authority source : Text} (hscheme : IsWebScheme scheme)
    (hauthority : (parse source).authority? = some authority) {path : Text}
    (hplain : ∀ c ∈ '/' :: path, Text.isBlank c = false) :
    ∃ u, parse (scheme ++ "://".toList ++ authority ++ '/' :: path) = u ∧
      u.scheme = some scheme ∧ u.authority? = some authority ∧
      u.path = some (pathOf ('/' :: path)) ∧ u.query = queryOf ('/' :: path) := by
  have hsource := hauthority
  rw [authority?_eq] at hsource
  obtain ⟨host, hhost, rfl⟩ := Option.map_eq_some_iff.mp hsource
  obtain ⟨hshape, hunblank⟩ := isHost_of_parse hhost
  have hall : ∀ c ∈ scheme ++ "://".toList ++ hostPort host (parse source).port ++ '/' :: path,
      Text.isBlank c = false := by
    intro c hc
    rcases List.mem_append.mp hc with hc | hc
    · rcases List.mem_append.mp hc with hc | hc
      · exact hscheme.unblank c hc
      · exact unblank_hostPort hunblank hc
    · exact hplain c hc
  have hends : ∀ c ∈ ('/' :: path).head?, endsAuthority c = true :=
    fun _ hc => Option.some.inj hc ▸ rfl
  have hhead := readHead?_append hscheme.isScheme (hostPort host (parse source).port ++ '/' :: path)
  have hread : readAuthority? { scheme := some scheme }
        (hostPort host (parse source).port ++ '/' :: path) =
      some ({ scheme := some scheme, host := some host, port := (parse source).port },
        '/' :: path) :=
    readAuthority?_append .none hshape _ _ hends
  rw [hread, ← List.append_assoc] at hhead
  have hparse := parse_of_readHead? (by simp) hall hhead
  refine ⟨_, hparse, rfl, ?_, ?_, ?_⟩
  · rfl
  · rw [readTail_path]
    rfl
  · rw [readTail_query]

/-! ## Paths alone -/

/-- A path is no URI, whatever comes after its slash but another one. -/
theorem parse_path {t : Text} (hslash : t.head? = some '/')
    (hslashes : Text.startsWith t "//" = false) (hplain : ∀ c ∈ t, Text.isBlank c = false) :
    parse t = empty := by
  have hnone : Text.afterPrefix? "//" t = none := by
    cases hrest : Text.afterPrefix? "//" t with
    | none => rfl
    | some rest =>
        rw [Text.eq_of_afterPrefix? hrest] at hslashes
        cases hslashes
  obtain ⟨path, rfl⟩ := List.head?_eq_some_iff.mp hslash
  have hhead : readHead? ('/' :: path) = none := by
    rw [readHead?_of_slash rfl, hnone]
    rfl
  have hany : ('/' :: path).any Text.isBlank = false := Text.unblank_iff.mp hplain
  rw [parse, Text.trim_of_unblank hplain, parse?, hany, hhead]
  rfl

end HttpExchange.Uri
