import HttpExchange.Adapter.Basic
import HttpExchange.Proofs.Calendar.Timestamp
import HttpExchange.Proofs.Numeral.Binary

/-!
# What is taken for a point in time

The lenient reader tries timestamps and then one layout after the other. Whatever
it takes, it takes for a point in time with a valid date: a layout is checked as a
whole at its end, and a timestamp has four digits for its year, so that even its
distance from universal time cannot move it beyond the bounds of the calendar.

Each of these texts begins with a number and a mark behind it. No numeral does, so
no text is taken for a number and for a point in time.

## Main definitions

* `Moment.IsMarked` — digits, perhaps behind a sign, and then a mark between numbers.

## Main results

* `Timestamp.exists_isDate_of_readDate?` — the date that a timestamp begins with.
* `Moment.exists_of_read?` — what is read is the count of seconds of a valid point in time.
* `Moment.isMarked_of_read?`, `Moment.integerOfText?_of_read?` — a text that denotes a point in
  time is no numeral.
-/

namespace HttpExchange

/-! ## Numbers with a mark behind them -/

/-- Digits, perhaps behind a sign, and then a mark between the numbers of a date. -/
def Moment.IsMarked (t : Text) : Prop :=
  ∃ digits c rest, Numeral.isDigits digits = true ∧ (c = '-' ∨ c = '/') ∧
    (Numeral.splitSign t).2 = digits ++ c :: rest

namespace Numeral

/-- What begins with a digit has no sign. -/
theorem splitSign_append {digits : Text} (h : isDigits digits = true) (rest : Text) :
    splitSign (digits ++ rest) = (false, digits ++ rest) := by
  cases digits with
  | nil => cases h
  | cons c digits =>
      have hc : c.isDigit = true := by
        rw [isDigits, Bool.and_eq_true, List.all_eq_true] at h
        exact h.2 c List.mem_cons_self
      rw [List.cons_append]
      unfold splitSign
      split
      · next heq =>
          rw [(List.cons.inj heq).1] at hc
          cases hc
      · next heq =>
          rw [(List.cons.inj heq).1] at hc
          cases hc
      · rfl

/-- What is put behind a text that is not empty is behind its sign. -/
theorem splitSign_cons_append (c : Char) (t rest : Text) :
    (splitSign (c :: (t ++ rest))).2 = (splitSign (c :: t)).2 ++ rest := by
  by_cases hminus : c = '-'
  · rw [hminus]
    rfl
  · by_cases hplus : c = '+'
    · rw [hplus]
      rfl
    · have hother : ∀ t, splitSign (c :: t) = (false, c :: t) := by
        intro t
        unfold splitSign
        split
        · next heq => exact absurd (List.cons.inj heq).1 hminus
        · next heq => exact absurd (List.cons.inj heq).1 hplus
        · rfl
      rw [hother, hother, List.cons_append]

/-- Where an integer is read, there are digits alone behind the sign. -/
theorem readInt64?_of_not_isDigits {t : Text} (h : isDigits (splitSign t).2 = false) :
    readInt64? t = none := by
  have hnat : ∀ {digits : Text} {bound : Nat}, isDigits digits = false →
      (if isDigits digits && value digits ≤ bound then some (value digits) else none) = none := by
    intro digits bound hdigits
    rw [hdigits]
    rfl
  unfold splitSign at h
  split at h
  · next rest =>
      show (if isDigits rest && minInt64 ≤ -(value rest : Int) then _ else none) = none
      rw [h]
      rfl
  · next rest => exact Option.map_eq_none_iff.mpr (hnat h)
  · next hminus hplus =>
      unfold readInt64?
      split
      · next rest => exact absurd rfl (hminus rest)
      · rw [Option.map_eq_none_iff, readNat?]
        · exact hnat h
        · exact hplus

theorem readUnsigned?_of_mark {digits : Text} (h : isDigits digits = true) {c : Char}
    (hc : c = '-' ∨ c = '/') (negative : Bool) (rest : Text) :
    readUnsigned? negative (digits ++ c :: rest) = none := by
  rw [isDigits, Bool.and_eq_true, Bool.not_eq_true', List.all_eq_true] at h
  obtain ⟨hempty, hdigits⟩ := h
  have hmark : c.isDigit = false := by rcases hc with rfl | rfl <;> decide
  simp only [readUnsigned?, Text.takeWhile_append_cons hdigits hmark,
    Text.dropWhile_append_cons hdigits hmark]
  rcases hc with rfl | rfl <;> simp [hempty]

/-- **A number with a mark behind it is no numeral.** -/
theorem integerOfNumeral?_of_isMarked {t : Text} (h : Moment.IsMarked t) :
    Json.integerOfNumeral? t = none := by
  obtain ⟨digits, c, rest, hdigits, hc, ht⟩ := h
  have hinteger : readInt64? t = none := by
    refine readInt64?_of_not_isDigits ?_
    rw [ht, isDigits, Bool.and_eq_false_iff, List.all_eq_false]
    refine .inr ⟨c, List.mem_append_right _ List.mem_cons_self, ?_⟩
    rcases hc with rfl | rfl <;> decide
  have hdecimal : Decimal.read? t = none := by
    show readUnsigned? (splitSign t).1 (splitSign t).2 = none
    rw [ht, readUnsigned?_of_mark hdigits hc]
  rw [Json.integerOfNumeral?, hinteger, hdecimal]
  rfl

end Numeral

/-! ## Timestamps -/

namespace Timestamp

theorem IsNumber.lt {width n : Nat} {t : Text} (h : IsNumber width t n) : n < 10 ^ width := by
  rw [← h.value, ← h.length]
  exact Numeral.value_lt h.digits

theorem IsNumber.isDigits {width n : Nat} {t : Text} (h : IsNumber width t n)
    (hpos : 0 < width) : Numeral.isDigits t = true := by
  have hne : t ≠ [] := List.ne_nil_of_length_pos (h.length ▸ hpos)
  rw [Numeral.isDigits, Bool.and_eq_true, Bool.not_eq_true', List.isEmpty_eq_false_iff]
  exact ⟨hne, List.all_eq_true.mpr h.digits⟩

/-- A number that is read off a text is one that the text begins with. -/
theorem exists_isNumber_of_readFixed? {width n : Nat} {t rest : Text}
    (h : readFixed? width t = some (n, rest)) :
    ∃ number, IsNumber width number n ∧ t = number ++ rest := by
  simp only [readFixed?] at h
  split at h
  · next hnumber =>
      obtain ⟨hlength, hdigits⟩ := hnumber
      obtain ⟨rfl, rfl⟩ := Prod.mk.inj (Option.some.inj h)
      exact ⟨t.take width, ⟨hlength, List.all_eq_true.mp hdigits, rfl⟩,
        (List.take_append_drop width t).symm⟩
  · cases h

theorem eq_of_expect? {c : Char} {t rest : Text} (h : expect? c t = some rest) :
    t = c :: rest := by
  cases t with
  | nil => cases h
  | cons d t =>
      rw [expect?] at h
      split at h
      · next hd => rw [hd, Option.some.inj h]
      · cases h

/-- A date that is read off a text is one that the text begins with. -/
theorem exists_isDate_of_readDate? {t rest : Text} {d : Date}
    (h : readDate? t = some (d, rest)) : ∃ date, IsDate date d ∧ t = date ++ rest := by
  simp only [readDate?, Option.bind_eq_bind, Option.bind_eq_some_iff, Prod.exists] at h
  obtain ⟨_, _, hread, _, hmark, _, _, hread', _, hmark', _, _, hread'', _, hd, heq⟩ := h
  obtain ⟨rfl, rfl⟩ := Prod.mk.inj (Option.some.inj heq)
  obtain ⟨year, hyear, rfl⟩ := exists_isNumber_of_readFixed? hread
  obtain rfl := eq_of_expect? hmark
  obtain ⟨month, hmonth, rfl⟩ := exists_isNumber_of_readFixed? hread'
  obtain rfl := eq_of_expect? hmark'
  obtain ⟨day, hday, rfl⟩ := exists_isNumber_of_readFixed? hread''
  rw [Date.ofParts?] at hd
  split at hd
  · next hvalid =>
      obtain rfl := Option.some.inj hd
      refine ⟨_, .mk hyear hmonth hday hvalid, ?_⟩
      simp only [List.append_assoc, List.cons_append]
  · cases hd

theorem IsDate.isValid {t : Text} {d : Date} (h : IsDate t d) : d.isValid = true := by
  obtain ⟨-, -, -, hvalid⟩ := h
  exact hvalid

/-- The year of a timestamp has four digits. -/
theorem IsDate.year_bounds {t : Text} {d : Date} (h : IsDate t d) : 0 ≤ d.year ∧ d.year ≤ 9999 := by
  obtain ⟨hyear, -, -, -⟩ := h
  have hlt := hyear.lt
  dsimp only
  omega

/-- A date begins with the digits of its year and a mark. -/
theorem IsDate.isMarked {t : Text} {d : Date} (h : IsDate t d) (rest : Text) :
    Moment.IsMarked (t ++ rest) := by
  cases h with
  | @mk year month day y m d hyear hmonth hday hvalid =>
      have hdigits := hyear.isDigits (by decide)
      refine ⟨year, '-', month ++ '-' :: day ++ rest, hdigits, .inl rfl, ?_⟩
      rw [List.append_assoc, List.cons_append, Numeral.splitSign_append hdigits]

/-- The days of the years 0 to 9999. -/
theorem IsDate.dayNumber_bounds {t : Text} {d : Date} (h : IsDate t d) :
    -719528 ≤ d.dayNumber ∧ d.dayNumber ≤ 2932896 := by
  have hvalid : (DateTime.ofDate d).isValid = true := by
    simp [DateTime.isValid, DateTime.ofDate, h.isValid]
  have hseconds : (DateTime.ofDate d).seconds = d.dayNumber * 86400 := by
    simp [DateTime.seconds, DateTime.ofDate]
  obtain ⟨hmin, hmax⟩ := DateTime.inFourDigits_seconds hvalid h.year_bounds.1 h.year_bounds.2
  omega

theorem lt_of_readTime? {t rest : Text} {n : Nat} (h : readTime? t = some (n, rest)) :
    n < 86400 := by
  simp only [readTime?, Option.bind_eq_bind, Option.bind_eq_some_iff, Prod.exists] at h
  obtain ⟨hour, _, -, _, -, minute, _, -, _, -, second, _, -, h⟩ := h
  split at h
  · obtain ⟨rfl, -⟩ := Prod.mk.inj (Option.some.inj h)
    omega
  · cases h

/-- Hours and minutes that are checked make less than a day. -/
theorem bounds_of_checked {east : Prop} [Decidable east] {rest : Text} {hours minutes : Nat}
    {o : Int} (h : (if rest.isEmpty ∧ hours < 24 ∧ minutes < 60 then
      some (if east then (hours * 3600 + minutes * 60 : Int) else -(hours * 3600 + minutes * 60))
      else none) = some o) : -86400 < o ∧ o < 86400 := by
  split at h
  · next hheld =>
      obtain ⟨-, hhours, hminutes⟩ := hheld
      rw [← Option.some.inj h]
      split <;> omega
  · cases h

/-- The distance from universal time is less than a day. -/
theorem bounds_of_readOffset? {t : Text} {o : Int} (h : readOffset? t = some o) :
    -86400 < o ∧ o < 86400 := by
  unfold readOffset? at h
  split at h
  case h_1 => exact Option.some.inj h ▸ by decide
  case h_2 => exact Option.some.inj h ▸ by decide
  case h_3 =>
    split at h
    · simp only [Option.bind_eq_bind, Option.bind_some, Option.bind_eq_some_iff, Prod.exists] at h
      obtain ⟨hours, _, -, _, -, minutes, _, -, h⟩ := h
      exact bounds_of_checked h
    · split at h
      · simp only [Option.bind_eq_bind, Option.bind_some, Option.bind_eq_some_iff, Prod.exists] at h
        obtain ⟨hours, _, -, _, -, minutes, _, -, h⟩ := h
        exact bounds_of_checked h
      · cases h
  case h_4 => cases h

/-- What a text that is taken for a timestamp begins with, and how far the seconds that it denotes
are from the beginning of its date. -/
theorem exists_isDate_of_read? {t : Text} {s : Int} (h : read? t = some s) :
    ∃ date d rest, IsDate date d ∧ t = date ++ rest ∧ d.dayNumber * 86400 - 86400 < s ∧
      s < d.dayNumber * 86400 + 172800 := by
  simp only [read?, Option.bind_eq_bind, Option.bind_eq_some_iff, Prod.exists] at h
  obtain ⟨d, rest, hread, separator, -, h⟩ := h
  split at h
  · cases h
  · simp only [Option.bind_eq_some_iff, Prod.exists] at h
    obtain ⟨time, _, hread', _, -, offset, hread'', heq⟩ := h
    obtain ⟨date, hdate, rfl⟩ := exists_isDate_of_readDate? hread
    have htime := lt_of_readTime? hread'
    have hoffset := bounds_of_readOffset? hread''
    have hs := Option.some.inj heq
    exact ⟨date, d, rest, hdate, rfl, by omega, by omega⟩

end Timestamp

/-! ## Points in time -/

namespace Date

/-- The days of the dates with a year within the bounds. -/
theorem dayNumber_bounds {d : Date} (h : d.isValid = true) :
    -97000000 ≤ d.dayNumber ∧ d.dayNumber ≤ 97000000 := by
  have hlength := daysInMonth_le d.year d.month
  simp only [isValid, Bool.and_eq_true, decide_eq_true_eq, yearInBounds_iff, minYear, maxYear] at h
  obtain ⟨⟨⟨⟨⟨hmin, hmax⟩, hmonth⟩, hmonth'⟩, hday⟩, hday'⟩ := h
  simp only [dayNumber, daysBeforeYear, daysBeforeMonth, epochDay]
  split <;> omega

end Date

namespace DateTime

theorem yearInBounds_of_isValid {p : DateTime} (h : p.isValid = true) :
    Date.yearInBounds p.date.year = true := by
  simp only [isValid, Date.isValid, Bool.and_eq_true] at h
  obtain ⟨⟨⟨⟨⟨⟨⟨hbounds, -⟩, -⟩, -⟩, -⟩, -⟩, -⟩, -⟩ := h
  exact hbounds

/-- Years are integers of 64 bits. -/
theorem year_bounds {p : DateTime} (h : p.isValid = true) :
    Numeral.minInt64 ≤ p.date.year ∧ p.date.year ≤ Numeral.maxInt64 := by
  have hbounds := Date.yearInBounds_iff.mp (yearInBounds_of_isValid h)
  simp only [Date.minYear, Date.maxYear] at hbounds
  simp only [Numeral.minInt64, Numeral.maxInt64]
  omega

/-- Counts of seconds are integers of 64 bits. -/
theorem seconds_bounds {p : DateTime} (h : p.isValid = true) :
    Numeral.minInt64 ≤ p.seconds ∧ p.seconds ≤ Numeral.maxInt64 := by
  simp only [isValid, Bool.and_eq_true, decide_eq_true_eq] at h
  obtain ⟨⟨⟨hdate, hhour⟩, hminute⟩, hsecond⟩ := h
  have hday := Date.dayNumber_bounds hdate
  simp only [seconds, Numeral.minInt64, Numeral.maxInt64]
  omega

end DateTime

/-! ## Layouts -/

namespace Layout

open Numeral

theorem exists_of_readNumber? {width n : Nat} {t rest : Text}
    (h : readNumber? width t = some (n, rest)) :
    ∃ digits, isDigits digits = true ∧ t = digits ++ rest := by
  simp only [readNumber?] at h
  split at h
  · cases h
  · next hempty =>
      obtain ⟨-, rfl⟩ := Prod.mk.inj (Option.some.inj h)
      refine ⟨(t.take width).takeWhile Char.isDigit, ?_, ?_⟩
      · rw [isDigits, List.all_takeWhile, Bool.and_true, Bool.eq_false_iff.mpr hempty]
        rfl
      · exact (List.prefix_iff_eq_append.mp
          ((List.takeWhile_prefix _).trans (List.take_prefix _ _))).symm

theorem exists_of_readYear? {t rest : Text} {n : Int} (h : readYear? t = some (n, rest)) :
    ∃ digits, isDigits digits = true ∧ (splitSign t).2 = digits ++ rest := by
  unfold readYear? at h
  split at h
  all_goals
    obtain ⟨⟨m, rest'⟩, hread, heq⟩ := Option.map_eq_some_iff.mp h
    obtain rfl : rest' = rest := (Prod.mk.inj heq).2
    obtain ⟨digits, hdigits, hrest⟩ := exists_of_readNumber? hread
  · exact ⟨digits, hdigits, hrest⟩
  · exact ⟨digits, hdigits, hrest⟩
  · refine ⟨digits, hdigits, ?_⟩
    rw [hrest, splitSign_append hdigits]

/-- A layout is read element by element. -/
theorem exists_of_foldlM_cons {item : Item} {items : Layout} {p q : DateTime} {t rest : Text}
    (h : (item :: items).foldlM (fun (p, t) item => step? p t item) (p, t) = some (q, rest)) :
    ∃ p' t', step? p t item = some (p', t') ∧
      items.foldlM (fun (p, t) item => step? p t item) (p', t') = some (q, rest) := by
  rw [List.foldlM_cons, Option.bind_eq_bind, Option.bind_eq_some_iff] at h
  obtain ⟨⟨p', t'⟩, hstep, h⟩ := h
  exact ⟨p', t', hstep, h⟩

theorem exists_of_read? {layout : Layout} {t : Text} {p : DateTime}
    (h : read? layout t = some p) :
    p.isValid = true ∧ layout.foldlM (fun (p, t) item => step? p t item)
      ((⟨⟨0, 0, 0⟩, 0, 0, 0⟩ : DateTime), t) = some (p, []) := by
  simp only [read?, Option.bind_eq_bind, Option.bind_eq_some_iff, Prod.exists] at h
  obtain ⟨q, rest, hfold, h⟩ := h
  split at h
  · next hend =>
      obtain rfl := Option.some.inj h
      exact ⟨hend.2, List.isEmpty_iff.mp hend.1 ▸ hfold⟩
  · cases h

theorem eq_of_step?_mark {p p' : DateTime} {t rest : Text} {c : Char}
    (h : step? p t (.mark c) = some (p', rest)) : t = c :: rest := by
  obtain ⟨rest', hrest, heq⟩ := Option.map_eq_some_iff.mp h
  obtain rfl := (Prod.mk.inj heq).2
  exact Timestamp.eq_of_expect? hrest

theorem exists_of_step?_month {p p' : DateTime} {t rest : Text}
    (h : step? p t .month = some (p', rest)) : ∃ digits, Text.trimStart t = digits ++ rest := by
  obtain ⟨⟨n, rest'⟩, hread, heq⟩ := Option.map_eq_some_iff.mp h
  obtain rfl : rest' = rest := (Prod.mk.inj heq).2
  obtain ⟨digits, -, ht⟩ := exists_of_readNumber? hread
  exact ⟨digits, ht⟩

/-- A year and a day at the beginning of a text. -/
theorem exists_of_step?_first {first : Item} (hfirst : first = .year ∨ first = .day)
    {p p' : DateTime} {t rest : Text} (ht : ∀ c ∈ t.head?, Text.isBlank c = false)
    (h : step? p t first = some (p', rest)) :
    ∃ digits, isDigits digits = true ∧ (splitSign t).2 = digits ++ rest := by
  rcases hfirst with rfl | rfl
  all_goals
    obtain ⟨⟨n, rest'⟩, hread, heq⟩ := Option.map_eq_some_iff.mp h
    obtain rfl : rest' = rest := (Prod.mk.inj heq).2
    rw [Text.trimStart_eq_self ht] at hread
  · exact exists_of_readYear? hread
  · obtain ⟨digits, hdigits, rfl⟩ := exists_of_readNumber? hread
    exact ⟨digits, hdigits, by rw [splitSign_append hdigits]⟩

theorem isMarked_of_read? {first : Item} (hfirst : first = .year ∨ first = .day) {c : Char}
    (hc : c = '-' ∨ c = '/') {items : Layout} {t : Text} {p : DateTime}
    (ht : ∀ c ∈ t.head?, Text.isBlank c = false)
    (h : read? (first :: .mark c :: items) t = some p) : Moment.IsMarked t := by
  obtain ⟨-, hfold⟩ := exists_of_read? h
  obtain ⟨_, _, hstep, hfold⟩ := exists_of_foldlM_cons hfold
  obtain ⟨_, rest, hmark, -⟩ := exists_of_foldlM_cons hfold
  obtain ⟨digits, hdigits, heq⟩ := exists_of_step?_first hfirst ht hstep
  rw [eq_of_step?_mark hmark] at heq
  exact ⟨digits, c, rest, hdigits, hc, heq⟩

/-- A mark with another one behind it is not the mark before the day. -/
theorem exists_of_append_day {t before rest : Text}
    (h : t ++ ['-', '0', '1'] = before ++ '-' :: rest) (hsecond : '-' ∈ rest) :
    ∃ after, t = before ++ '-' :: after := by
  rcases List.append_eq_append_iff.mp h with ⟨more, -, hday⟩ | ⟨after, ht, hday⟩
  · have hmem : '-' ∈ ['0', '1'] := by
      cases more with
      | nil => exact (List.cons.inj hday).2 ▸ hsecond
      | cons d more =>
          rw [(List.cons.inj hday).2]
          exact List.mem_append_right _ List.mem_cons_self
    exact absurd hmem (by decide)
  · cases after with
    | nil => exact absurd ((List.cons.inj hday).2 ▸ hsecond) (by decide)
    | cons d after => exact ⟨after, by rw [ht, (List.cons.inj hday).1]⟩

/-- A year and a month have a mark between them before the day is put behind them. -/
theorem isMarked_of_read?_month {t : Text} {p : DateTime}
    (ht : ∀ c ∈ t.head?, Text.isBlank c = false)
    (h : read? yearMonthDay (t ++ "-01".toList) = some p) : Moment.IsMarked t := by
  obtain ⟨-, hfold⟩ := exists_of_read? h
  obtain ⟨_, _, hyear, hfold⟩ := exists_of_foldlM_cons hfold
  obtain ⟨_, rest, hmark, hfold⟩ := exists_of_foldlM_cons hfold
  obtain ⟨_, _, hmonth, hfold⟩ := exists_of_foldlM_cons hfold
  obtain ⟨_, _, hmark', -⟩ := exists_of_foldlM_cons hfold
  have hhead : ∀ c ∈ (t ++ "-01".toList).head?, Text.isBlank c = false := by
    cases t with
    | nil => decide
    | cons c t => exact ht
  obtain ⟨digits, hdigits, heq⟩ := exists_of_step?_first (.inl rfl) hhead hyear
  rw [eq_of_step?_mark hmark] at heq
  -- the second mark belongs to what follows the first one, so that is not the day alone
  have hsecond : '-' ∈ rest := by
    obtain ⟨month, hrest⟩ := exists_of_step?_month hmonth
    rw [eq_of_step?_mark hmark'] at hrest
    refine (List.dropWhile_suffix Text.isBlank).subset ?_
    show '-' ∈ Text.trimStart rest
    rw [hrest]
    exact List.mem_append_right _ List.mem_cons_self
  cases t with
  | nil =>
      have hmem : '-' ∈ ['0', '1'] := by
        rw [show ['0', '1'] = digits ++ '-' :: rest from heq]
        exact List.mem_append_right _ List.mem_cons_self
      exact absurd hmem (by decide)
  | cons c t =>
      rw [List.cons_append, splitSign_cons_append] at heq
      obtain ⟨after, hafter⟩ := exists_of_append_day heq hsecond
      exact ⟨digits, '-', after, hdigits, .inl rfl, hafter⟩

end Layout

/-! ## The lenient reader -/

namespace Moment

theorem exists_of_mem_layouts {layout : Layout} (h : layout ∈ layouts) :
    ∃ first c items, (first = .year ∨ first = .day) ∧ (c = '-' ∨ c = '/') ∧
      layout = first :: .mark c :: items := by
  simp only [layouts, List.mem_cons, List.not_mem_nil, or_false] at h
  rcases h with rfl | rfl | rfl | rfl | rfl | rfl
  · exact ⟨_, _, _, .inl rfl, .inl rfl, rfl⟩
  · exact ⟨_, _, _, .inl rfl, .inl rfl, rfl⟩
  · exact ⟨_, _, _, .inl rfl, .inl rfl, rfl⟩
  · exact ⟨_, _, _, .inl rfl, .inl rfl, rfl⟩
  · exact ⟨_, _, _, .inr rfl, .inr rfl, rfl⟩
  · exact ⟨_, _, _, .inl rfl, .inr rfl, rfl⟩

/-- What the lenient reader takes is a timestamp, a text in one of the layouts, or a year and a
month. -/
theorem read?_cases {t : Text} {s : Int} (h : read? t = some s) :
    Timestamp.read? (Text.trim t) = some s ∨
      ∃ p : DateTime, p.seconds = s ∧
        ((∃ layout ∈ layouts, Layout.read? layout (Text.trim t) = some p) ∨
          Layout.read? Layout.yearMonthDay (Text.trim t ++ "-01".toList) = some p) := by
  simp only [read?, Option.orElse_eq_orElse, Option.orElse_eq_or, Option.or_eq_some_iff,
    Option.map_eq_some_iff] at h
  rcases h with hstamp | ⟨-, p, hp, hs⟩
  · exact .inl hstamp
  · refine .inr ⟨p, hs, ?_⟩
    rcases hp with hfound | ⟨-, hmonth⟩
    · exact .inl (List.exists_of_findSome?_eq_some hfound)
    · exact .inr hmonth

/-- **What is read is the count of seconds of a valid point in time.** -/
theorem exists_of_read? {t : Text} {s : Int} (h : read? t = some s) :
    ∃ p : DateTime, p.isValid = true ∧ p.seconds = s := by
  rcases read?_cases h with hstamp | ⟨p, hp, hlayout⟩
  · obtain ⟨date, d, rest, hdate, -, hmin, hmax⟩ := Timestamp.exists_isDate_of_read? hstamp
    obtain ⟨hfirst, hlast⟩ := hdate.dayNumber_bounds
    exact ⟨_, DateTime.isValid_ofSeconds (by omega) (by omega),
      DateTime.seconds_ofSeconds s⟩
  · rcases hlayout with ⟨layout, -, hread⟩ | hread
    · exact ⟨p, (Layout.exists_of_read? hread).1, hp⟩
    · exact ⟨p, (Layout.exists_of_read? hread).1, hp⟩

/-- A text that denotes a point in time begins with a number and a mark behind it. -/
theorem isMarked_of_read? {t : Text} {s : Int} (h : read? t = some s) :
    IsMarked (Text.trim t) := by
  have hhead : ∀ c ∈ (Text.trim t).head?, Text.isBlank c = false := fun _ => Text.isBlank_head_trim
  rcases read?_cases h with hstamp | ⟨p, -, hlayout⟩
  · obtain ⟨date, d, rest, hdate, heq, -⟩ := Timestamp.exists_isDate_of_read? hstamp
    rw [heq]
    exact hdate.isMarked rest
  · rcases hlayout with ⟨layout, hmem, hread⟩ | hread
    · obtain ⟨first, c, items, hfirst, hc, rfl⟩ := exists_of_mem_layouts hmem
      exact Layout.isMarked_of_read? hfirst hc hhead hread
    · exact Layout.isMarked_of_read?_month hhead hread

/-- **A text that denotes a point in time is no numeral.** -/
theorem integerOfText?_of_read? {t : Text} {s : Int} (h : read? t = some s) :
    integerOfText? t = none :=
  Numeral.integerOfNumeral?_of_isMarked (isMarked_of_read? h)

end Moment

end HttpExchange
