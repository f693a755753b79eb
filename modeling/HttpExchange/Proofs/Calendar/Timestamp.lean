import HttpExchange.Calendar.Layout
import HttpExchange.Proofs.Calendar.Date
import HttpExchange.Proofs.Numeral.Integer
import HttpExchange.Proofs.Text.Blank

/-!
# Timestamps of RFC 3339

A timestamp of RFC 3339 is made of parts: a date, a `T`, a time of day, a fraction
of a second that may be absent, and the distance from universal time. The numbers
in them have a fixed width, so each reader takes off exactly its part and leaves
the rest of the text. The statements about readers are therefore about a part that
is followed by any text.

## Main definitions

* `IsRfc3339` — the texts of RFC 3339, each with the seconds that it denotes.

## Main results

* `IsRfc3339.read?` — a timestamp gives the seconds that it denotes.
* `isRfc3339_text` — what is written for a point in time is a timestamp that denotes it.
* `Moment.read?_of_isRfc3339`, `Moment.read?_text` — the same of the lenient reader, which trims
  the text first.
-/

namespace HttpExchange

namespace Timestamp

open Numeral

/-! ## The grammar -/

/-- A number of a fixed width. -/
structure IsNumber (width : Nat) (t : Text) (n : Nat) : Prop where
  length : t.length = width
  digits : ∀ c ∈ t, c.isDigit = true
  value : value t = n

/-- A date: the year, the month and the day. -/
inductive IsDate : Text → Date → Prop
  | mk {year month day : Text} {y m d : Nat} (hyear : IsNumber 4 year y)
      (hmonth : IsNumber 2 month m) (hday : IsNumber 2 day d)
      (hvalid : (⟨y, m, d⟩ : Date).isValid = true) :
      IsDate (year ++ '-' :: (month ++ '-' :: day)) ⟨y, m, d⟩

/-- A time of day, in seconds. A leap second counts as the second before it. -/
inductive IsTime : Text → Nat → Prop
  | mk {hour minute second : Text} {h m s : Nat} (hhour : IsNumber 2 hour h) (hh : h < 24)
      (hminute : IsNumber 2 minute m) (hm : m < 60) (hsecond : IsNumber 2 second s) (hs : s ≤ 60) :
      IsTime (hour ++ ':' :: (minute ++ ':' :: second)) (h * 3600 + m * 60 + min s 59)

/-- A fraction of a second, perhaps absent. -/
inductive IsFraction : Text → Prop
  | absent : IsFraction []
  | digits {t : Text} (hne : t ≠ []) (hdigits : ∀ c ∈ t, c.isDigit = true) : IsFraction ('.' :: t)

/-- A distance from universal time, in seconds to the east. -/
inductive IsOffset : Text → Int → Prop
  | utc {c : Char} (hc : c = 'Z' ∨ c = 'z') : IsOffset [c] 0
  | east {hour minute : Text} {h m : Nat} (hhour : IsNumber 2 hour h) (hh : h < 24)
      (hminute : IsNumber 2 minute m) (hm : m < 60) :
      IsOffset ('+' :: (hour ++ ':' :: minute)) (h * 3600 + m * 60)
  | west {hour minute : Text} {h m : Nat} (hhour : IsNumber 2 hour h) (hh : h < 24)
      (hminute : IsNumber 2 minute m) (hm : m < 60) :
      IsOffset ('-' :: (hour ++ ':' :: minute)) (-(h * 3600 + m * 60))

/-- A timestamp, with the seconds since the beginning of 1970 that it denotes. -/
inductive IsRfc3339 : Text → Int → Prop
  | mk {date time fraction offset : Text} {d : Date} {c : Char} {n : Nat} {o : Int}
      (hdate : IsDate date d) (hc : c = 'T' ∨ c = 't') (htime : IsTime time n)
      (hfraction : IsFraction fraction) (hoffset : IsOffset offset o) :
      IsRfc3339 (date ++ c :: (time ++ (fraction ++ offset))) (d.dayNumber * 86400 + n - o)

/-! ## Reading -/

theorem readFixed?_of_isNumber {width n : Nat} {t : Text} (h : IsNumber width t n) (rest : Text) :
    readFixed? width (t ++ rest) = some (n, rest) := by
  have htake : (t ++ rest).take width = t := by
    rw [← h.length]
    exact List.take_left
  have hdrop : (t ++ rest).drop width = rest := by
    rw [← h.length]
    exact List.drop_left
  have hdigits : t.all Char.isDigit = true := List.all_eq_true.mpr h.digits
  simp only [readFixed?, htake, hdrop]
  rw [if_pos ⟨h.length, hdigits⟩, h.value]

@[simp] theorem expect?_cons_self (c : Char) (rest : Text) : expect? c (c :: rest) = some rest := by
  rw [expect?, if_pos rfl]

theorem IsDate.read? {t : Text} {d : Date} (h : IsDate t d) (rest : Text) :
    readDate? (t ++ rest) = some (d, rest) := by
  obtain ⟨hyear, hmonth, hday, hvalid⟩ := h
  unfold readDate?
  simp only [List.append_assoc, List.cons_append]
  rw [readFixed?_of_isNumber hyear]
  simp only [Option.bind_eq_bind, Option.bind_some, expect?_cons_self]
  rw [readFixed?_of_isNumber hmonth]
  simp only [Option.bind_some, expect?_cons_self]
  rw [readFixed?_of_isNumber hday]
  simp only [Option.bind_some, Date.ofParts?, if_pos hvalid]

theorem IsTime.read? {t : Text} {n : Nat} (h : IsTime t n) (rest : Text) :
    readTime? (t ++ rest) = some (n, rest) := by
  obtain ⟨hhour, hh, hminute, hm, hsecond, hs⟩ := h
  unfold readTime?
  simp only [List.append_assoc, List.cons_append]
  rw [readFixed?_of_isNumber hhour]
  simp only [Option.bind_eq_bind, Option.bind_some, expect?_cons_self]
  rw [readFixed?_of_isNumber hminute]
  simp only [Option.bind_some, expect?_cons_self]
  rw [readFixed?_of_isNumber hsecond]
  simp only [Option.bind_some, if_pos (And.intro hh (And.intro hm hs))]

/-- A distance begins with a letter or with a sign. -/
theorem IsOffset.head {t : Text} {o : Int} (h : IsOffset t o) :
    ∃ c rest, t = c :: rest ∧ c ≠ '.' ∧ c.isDigit = false := by
  cases h with
  | utc hc =>
      rcases hc with rfl | rfl
      · exact ⟨'Z', [], rfl, by decide, by decide⟩
      · exact ⟨'z', [], rfl, by decide, by decide⟩
  | east => exact ⟨'+', _, rfl, by decide, by decide⟩
  | west => exact ⟨'-', _, rfl, by decide, by decide⟩

theorem IsFraction.skip? {t offset : Text} {o : Int} (h : IsFraction t)
    (hoffset : IsOffset offset o) : skipFraction? (t ++ offset) = some offset := by
  obtain ⟨c, rest, rfl, hdot, hdigit⟩ := hoffset.head
  cases h with
  | absent =>
      rw [List.nil_append]
      unfold skipFraction?
      split
      · next heq => exact absurd (List.cons.inj heq).1 hdot
      · next heq => exact absurd (List.cons.inj heq).1 hdot
      · rfl
  | @digits t hne hdigits =>
      cases t with
      | nil => exact absurd rfl hne
      | cons d t =>
          have hdrop : (t ++ c :: rest).dropWhile Char.isDigit = c :: rest := by
            rw [List.dropWhile_append_of_pos fun e he => hdigits e (List.mem_cons_of_mem d he),
              List.dropWhile_cons_of_neg (by rw [hdigit]; exact Bool.false_ne_true)]
          show (if d.isDigit then some ((t ++ c :: rest).dropWhile Char.isDigit) else none) = _
          rw [if_pos (hdigits d List.mem_cons_self), hdrop]

theorem IsOffset.read? {t : Text} {o : Int} (h : IsOffset t o) : readOffset? t = some o := by
  have hsigned : ∀ {hour minute : Text} {h m : Nat}, IsNumber 2 hour h → h < 24 →
      IsNumber 2 minute m → m < 60 → ∀ sign : Char, sign = '+' ∨ sign = '-' →
      readOffset? (sign :: (hour ++ ':' :: minute)) =
        some (if sign = '+' then (h * 3600 + m * 60 : Int) else -(h * 3600 + m * 60)) := by
    intro hour minute h m hhour hh hminute hm sign hsign
    have hread := readFixed?_of_isNumber hminute []
    rw [List.append_nil] at hread
    have hletter : sign ≠ 'Z' ∧ sign ≠ 'z' := by
      rcases hsign with rfl | rfl <;> decide
    unfold readOffset?
    split
    · next heq => exact absurd (List.cons.inj heq).1 hletter.1
    · next heq => exact absurd (List.cons.inj heq).1 hletter.2
    · next heq =>
        obtain ⟨rfl, rfl⟩ := List.cons.inj heq
        rcases hsign with rfl | rfl <;>
          simp [readFixed?_of_isNumber hhour, hread, hh, hm]
    · next heq => cases heq
  cases h with
  | utc hc => rcases hc with rfl | rfl <;> rfl
  | east hhour hh hminute hm => exact hsigned hhour hh hminute hm '+' (.inl rfl)
  | west hhour hh hminute hm => exact hsigned hhour hh hminute hm '-' (.inr rfl)

/-- **A timestamp gives the seconds that it denotes.** -/
theorem IsRfc3339.read? {t : Text} {s : Int} (h : IsRfc3339 t s) : read? t = some s := by
  obtain ⟨hdate, hc, htime, hfraction, hoffset⟩ := h
  unfold Timestamp.read?
  rw [hdate.read?]
  simp only [Option.bind_eq_bind, Option.bind_some, List.head?_cons, List.tail_cons]
  rw [if_neg (by rcases hc with rfl | rfl <;> decide), htime.read?, Option.bind_some,
    hfraction.skip? hoffset, Option.bind_some, hoffset.read?, Option.bind_some]

/-! ## Blanks

There are none in a timestamp, so trimming leaves it alone. -/

theorem IsNumber.unblank {width n : Nat} {t : Text} (h : IsNumber width t n) :
    ∀ c ∈ t, Text.isBlank c = false := fun c hc => Text.isBlank_of_isDigit (h.digits c hc)

theorem unblank_append_cons {a b : Text} {c : Char} (ha : ∀ d ∈ a, Text.isBlank d = false)
    (hc : Text.isBlank c = false) (hb : ∀ d ∈ b, Text.isBlank d = false) :
    ∀ d ∈ a ++ c :: b, Text.isBlank d = false := by
  intro d hd
  rcases List.mem_append.mp hd with hd | hd
  · exact ha d hd
  · rcases List.mem_cons.mp hd with rfl | hd
    · exact hc
    · exact hb d hd

theorem IsDate.unblank {t : Text} {d : Date} (h : IsDate t d) :
    ∀ c ∈ t, Text.isBlank c = false := by
  obtain ⟨hyear, hmonth, hday, -⟩ := h
  exact unblank_append_cons hyear.unblank (by decide)
    (unblank_append_cons hmonth.unblank (by decide) hday.unblank)

theorem IsTime.unblank {t : Text} {n : Nat} (h : IsTime t n) :
    ∀ c ∈ t, Text.isBlank c = false := by
  obtain ⟨hhour, -, hminute, -, hsecond, -⟩ := h
  exact unblank_append_cons hhour.unblank (by decide)
    (unblank_append_cons hminute.unblank (by decide) hsecond.unblank)

theorem IsFraction.unblank {t : Text} (h : IsFraction t) : ∀ c ∈ t, Text.isBlank c = false := by
  cases h with
  | absent => nofun
  | digits _ hdigits =>
      exact unblank_append_cons (a := []) nofun (by decide)
        fun c hc => Text.isBlank_of_isDigit (hdigits c hc)

theorem IsOffset.unblank {t : Text} {o : Int} (h : IsOffset t o) :
    ∀ c ∈ t, Text.isBlank c = false := by
  have hsigned : ∀ {hour minute : Text} {h m : Nat}, IsNumber 2 hour h → IsNumber 2 minute m →
      ∀ sign : Char, Text.isBlank sign = false →
      ∀ c ∈ sign :: (hour ++ ':' :: minute), Text.isBlank c = false :=
    fun hhour hminute _ hsign => unblank_append_cons (a := []) nofun hsign
      (unblank_append_cons hhour.unblank (by decide) hminute.unblank)
  cases h with
  | utc hc => rcases hc with rfl | rfl <;> decide
  | east hhour _ hminute _ => exact hsigned hhour hminute '+' (by decide)
  | west hhour _ hminute _ => exact hsigned hhour hminute '-' (by decide)

theorem IsRfc3339.unblank {t : Text} {s : Int} (h : IsRfc3339 t s) :
    ∀ c ∈ t, Text.isBlank c = false := by
  obtain ⟨hdate, hc, htime, hfraction, hoffset⟩ := h
  refine unblank_append_cons hdate.unblank (by rcases hc with rfl | rfl <;> decide) ?_
  intro c hmem
  rcases List.mem_append.mp hmem with hmem | hmem
  · exact htime.unblank c hmem
  · rcases List.mem_append.mp hmem with hmem | hmem
    · exact hfraction.unblank c hmem
    · exact hoffset.unblank c hmem

/-! ## Writing -/

theorem isNumber_padded {width n : Nat} (hpos : 0 < width) (h : n < 10 ^ width) :
    IsNumber width (padded width n) n where
  length := length_padded hpos h
  digits := fun _ hc => isDigit_of_mem_padded hc
  value := value_padded width n

theorem isDate_padded {d : Date} (hvalid : d.isValid = true) (hmin : 0 ≤ d.year)
    (hmax : d.year ≤ 9999) :
    IsDate (padded 4 d.year.toNat ++ '-' :: (padded 2 d.month ++ '-' :: padded 2 d.day)) d := by
  have hparts := hvalid
  simp only [Date.isValid, Bool.and_eq_true, decide_eq_true_eq] at hparts
  obtain ⟨⟨⟨⟨-, -⟩, hmonth⟩, -⟩, hday⟩ := hparts
  have hdays := Date.daysInMonth_le d.year d.month
  have hyear : (⟨(d.year.toNat : Int), d.month, d.day⟩ : Date) = d := by
    rw [Int.toNat_of_nonneg hmin]
  have hdate := IsDate.mk (isNumber_padded (by decide) (by omega : d.year.toNat < 10 ^ 4))
    (isNumber_padded (by decide) (by omega : d.month < 10 ^ 2))
    (isNumber_padded (by decide) (by omega : d.day < 10 ^ 2)) (by rw [hyear]; exact hvalid)
  rwa [hyear] at hdate

theorem isTime_padded {hour minute second : Nat} (hh : hour < 24) (hm : minute < 60)
    (hs : second < 60) :
    IsTime (padded 2 hour ++ ':' :: (padded 2 minute ++ ':' :: padded 2 second))
      (hour * 3600 + minute * 60 + second) := by
  have htime := IsTime.mk (isNumber_padded (by decide) (by omega : hour < 10 ^ 2)) hh
    (isNumber_padded (by decide) (by omega : minute < 10 ^ 2)) hm
    (isNumber_padded (by decide) (by omega : second < 10 ^ 2)) (by omega : second ≤ 60)
  rwa [Nat.min_eq_left (by omega)] at htime

theorem isOffset_utc : IsOffset "+00:00" 0 := by
  have hzero : IsNumber 2 ['0', '0'] 0 := ⟨rfl, by decide, rfl⟩
  exact .east hzero (by decide) hzero (by decide)

/-- **What is written is a timestamp** that denotes the point in time it was written for. -/
theorem isRfc3339_text {t : DateTime} (h : t.isValid = true) (hmin : 0 ≤ t.date.year)
    (hmax : t.date.year ≤ 9999) : IsRfc3339 (text t) t.seconds := by
  simp only [DateTime.isValid, Bool.and_eq_true, decide_eq_true_eq] at h
  obtain ⟨⟨⟨hdate, hhour⟩, hminute⟩, hsecond⟩ := h
  have hstamp := IsRfc3339.mk (isDate_padded hdate hmin hmax) (.inl rfl)
    (isTime_padded hhour hminute hsecond) .absent isOffset_utc
  have hseconds : t.date.dayNumber * 86400 +
      (t.hour * 3600 + t.minute * 60 + t.second : Nat) - 0 = t.seconds := by
    unfold DateTime.seconds
    omega
  rw [hseconds] at hstamp
  rw [text, yearText, if_pos ⟨hmin, hmax⟩]
  simp only [List.append_assoc, List.cons_append, List.nil_append] at hstamp ⊢
  exact hstamp

theorem isRfc3339_text_ofSeconds {s : Int} (h : DateTime.InFourDigits s) :
    IsRfc3339 (text (DateTime.ofSeconds s)) s := by
  obtain ⟨hmin, hmax⟩ := Date.year_ofDayNumber h.day.1 h.day.2
  have hstamp := isRfc3339_text h.isValid hmin hmax
  rwa [DateTime.seconds_ofSeconds] at hstamp

end Timestamp

namespace Moment

/-- The lenient reader takes every timestamp for what it denotes. -/
theorem read?_of_isRfc3339 {t : Text} {s : Int} (h : Timestamp.IsRfc3339 t s) :
    read? t = some s := by
  simp only [read?, Text.trim_of_unblank h.unblank, h.read?]
  rfl

theorem read?_text {s : Int} (h : DateTime.InFourDigits s) :
    read? (Timestamp.text (DateTime.ofSeconds s)) = some s :=
  read?_of_isRfc3339 (Timestamp.isRfc3339_text_ofSeconds h)

end Moment

end HttpExchange
