import HttpExchange.Calendar.Date

/-!
# Days have dates

The date of a day is found by arithmetic alone. To see that it is the right one,
a day is taken apart into the cycle of 400 years it belongs to, the century, the
span of four years, and the rest. The last day of a cycle has no century of its
own to begin and is counted with the one before, which is why the century stops
at three and the span at twenty-four.

## Main results

* `yearOfDay_spec` — the year of a day begins no later than it and ends after.
* `dayNumber_ofDayNumber`, `isValid_ofDayNumber` — every day has a date, which
  gives the day back.
* `ofDayNumber_dayNumber` — a date is the date of its day.
* `dayNumber_next` — days follow each other as their dates do.
* `seconds_ofSeconds`, `ofSeconds_seconds` — the same of points in time.
-/

namespace HttpExchange

namespace Date

/-! ## Years, counted from March -/

/-- A day as cycle, century, span of four years, and rest. -/
structure Parts (day a c k u : Int) : Prop where
  eq : day = 146097 * a + (36524 * c + (1461 * k + u))
  century : 0 ≤ c ∧ c ≤ 3
  span : 0 ≤ k ∧ k ≤ 24
  rest : 0 ≤ u ∧ u ≤ 1460
  last : k = 24 → u ≤ 1459 ∨ c = 3

theorem exists_parts (day : Int) : ∃ a c k u, Parts day a c k u := by
  let r := day % 146097
  let c := min 3 (r / 36524)
  let s := r - 36524 * c
  let k := min 24 (s / 1461)
  refine ⟨day / 146097, c, k, s - 1461 * k, ?_, ?_, ?_, ?_, ?_⟩ <;> omega

theorem Parts.yearOfDay {day a c k u : Int} (h : Parts day a c k u) :
    yearOfDay day = 400 * a + 100 * c + 4 * k + min 3 (u / 365) := by
  obtain ⟨rfl, hc, hk, hu, hlast⟩ := h
  have hdiv : (146097 * a + (36524 * c + (1461 * k + u))) / 146097 = a := by omega
  have hmod : (146097 * a + (36524 * c + (1461 * k + u))) % 146097 =
      36524 * c + (1461 * k + u) := by omega
  -- only the last day of a cycle counts as a century more, and that is taken back
  have hcentury : (36524 * c + (1461 * k + u)) / 36524 -
      (36524 * c + (1461 * k + u)) / 146096 = c := by
    by_cases hfull : 36524 * c + (1461 * k + u) < 36524 * (c + 1)
    · have hover : (36524 * c + (1461 * k + u)) / 146096 = 0 := by omega
      have hwithin : (36524 * c + (1461 * k + u)) / 36524 = c := by omega
      omega
    · have hfinal : 36524 * c + (1461 * k + u) = 146096 := by omega
      rw [hfinal]
      omega
  have hspan : (36524 * c + (1461 * k + u)) / 1460 =
      25 * c + k + (24 * c + k + u) / 1460 := by omega
  simp only [Date.yearOfDay, hdiv, hmod, hspan, Int.add_sub_assoc, hcentury]
  omega

theorem daysBeforeYear_parts {a c k j : Int} (hc : 0 ≤ c ∧ c ≤ 3) (hk : 0 ≤ k ∧ k ≤ 24)
    (hj : 0 ≤ j ∧ j ≤ 3) :
    daysBeforeYear (400 * a + 100 * c + 4 * k + j) =
      146097 * a + 36524 * c + 1461 * k + 365 * j := by
  simp only [daysBeforeYear]
  omega

theorem yearOfDay_spec (day : Int) :
    daysBeforeYear (yearOfDay day) ≤ day ∧ day < daysBeforeYear (yearOfDay day + 1) := by
  obtain ⟨a, c, k, u, h⟩ := exists_parts day
  have hj : 0 ≤ min 3 (u / 365) ∧ min 3 (u / 365) ≤ 3 := by
    have := h.rest
    omega
  have hbegin := daysBeforeYear_parts (a := a) h.century h.span hj
  rw [h.yearOfDay]
  obtain ⟨rfl, hc, hk, hu, hlast⟩ := h
  constructor
  · omega
  · simp only [daysBeforeYear]
    omega

/-- A year that is counted from March ends with the leap day of the next one, if that has one. -/
theorem daysBeforeYear_succ (year : Int) :
    daysBeforeYear (year + 1) =
      daysBeforeYear year + (if isLeap (year + 1) then 366 else 365) := by
  have hleap : isLeap (year + 1) = true ↔
      (year + 1) % 4 = 0 ∧ ((year + 1) % 100 ≠ 0 ∨ (year + 1) % 400 = 0) := by
    simp [isLeap]
  simp only [daysBeforeYear]
  split
  · next h =>
      rw [hleap] at h
      omega
  · next h =>
      rw [hleap] at h
      omega

/-! ## Dates -/

/-- The day of its year, counted from March, that a day is. -/
def dayOfYear (n : Int) : Nat :=
  (n + epochDay - daysBeforeYear (yearOfDay (n + epochDay))).toNat

theorem daysBeforeYear_add_dayOfYear (n : Int) :
    daysBeforeYear (yearOfDay (n + epochDay)) + dayOfYear n = n + epochDay := by
  have := (yearOfDay_spec (n + epochDay)).1
  unfold dayOfYear
  omega

theorem dayOfYear_le (n : Int) :
    dayOfYear n ≤ if isLeap (yearOfDay (n + epochDay) + 1) then 365 else 364 := by
  have hsum := daysBeforeYear_add_dayOfYear n
  have hend := (yearOfDay_spec (n + epochDay)).2
  rw [daysBeforeYear_succ] at hend
  split at hend
  · next h =>
      rw [if_pos h]
      omega
  · next h =>
      rw [if_neg h]
      omega

theorem ofDayNumber_eq (n : Int) :
    ofDayNumber n =
      let month := (5 * dayOfYear n + 2) / 153
      let day := dayOfYear n - daysBeforeMonth month + 1
      if month < 10 then ⟨yearOfDay (n + epochDay), month + 3, day⟩
      else ⟨yearOfDay (n + epochDay) + 1, month - 9, day⟩ := rfl

theorem dayNumber_ofDayNumber (n : Int) : (ofDayNumber n).dayNumber = n := by
  have hsum := daysBeforeYear_add_dayOfYear n
  have hle := dayOfYear_le n
  rw [ofDayNumber_eq]
  dsimp only
  split
  · next hmonth =>
      simp only [dayNumber, daysBeforeMonth] at hmonth ⊢
      rw [if_neg (by omega), if_neg (by omega)]
      omega
  · next hmonth =>
      have hlate : (5 * dayOfYear n + 2) / 153 ≤ 11 := by
        split at hle <;> omega
      simp only [dayNumber, daysBeforeMonth] at hmonth ⊢
      rw [if_pos (by omega), if_pos (by omega), Int.add_sub_cancel]
      omega

theorem daysInMonth_cases (year : Int) (month : Nat) :
    daysInMonth year month = 31 ∨
      (daysInMonth year month = 30 ∧ (month = 4 ∨ month = 6 ∨ month = 9 ∨ month = 11)) ∨
      (month = 2 ∧ daysInMonth year month = if isLeap year then 29 else 28) := by
  unfold daysInMonth
  split
  · next h => exact Or.inr (Or.inr ⟨h, rfl⟩)
  · split
    · next h => exact Or.inr (Or.inl ⟨rfl, h⟩)
    · exact Or.inl rfl

theorem daysInMonth_le (year : Int) (month : Nat) : daysInMonth year month ≤ 31 := by
  unfold daysInMonth
  split
  · split <;> decide
  · split <;> decide

theorem day_ofDayNumber (n : Int) :
    1 ≤ (ofDayNumber n).month ∧ (ofDayNumber n).month ≤ 12 ∧ 1 ≤ (ofDayNumber n).day ∧
      (ofDayNumber n).day ≤ daysInMonth (ofDayNumber n).year (ofDayNumber n).month := by
  have hle := dayOfYear_le n
  rw [ofDayNumber_eq]
  dsimp only
  have hlate : (5 * dayOfYear n + 2) / 153 ≤ 11 := by
    split at hle <;> omega
  split
  · next hmonth =>
      have hdays := daysInMonth_cases (yearOfDay (n + epochDay)) ((5 * dayOfYear n + 2) / 153 + 3)
      simp only [daysBeforeMonth]
      refine ⟨by omega, by omega, by omega, ?_⟩
      omega
  · next hmonth =>
      have hdays := daysInMonth_cases (yearOfDay (n + epochDay) + 1)
        ((5 * dayOfYear n + 2) / 153 - 9)
      simp only [daysBeforeMonth]
      refine ⟨by omega, by omega, by omega, ?_⟩
      by_cases hleap : isLeap (yearOfDay (n + epochDay) + 1) = true
      · rw [if_pos hleap] at hle hdays
        omega
      · rw [if_neg hleap] at hle hdays
        omega

/-- The days of the years that four digits can name. -/
theorem year_ofDayNumber {n : Int} (hfirst : -719528 ≤ n) (hlast : n ≤ 2932896) :
    0 ≤ (ofDayNumber n).year ∧ (ofDayNumber n).year ≤ 9999 := by
  have hsum := daysBeforeYear_add_dayOfYear n
  obtain ⟨hbegin, hend⟩ := yearOfDay_spec (n + epochDay)
  have hmin : -1 ≤ yearOfDay (n + epochDay) := by
    simp only [daysBeforeYear, epochDay] at hend ⊢
    omega
  have hmax : yearOfDay (n + epochDay) ≤ 9999 := by
    simp only [daysBeforeYear, epochDay] at hbegin ⊢
    omega
  rw [ofDayNumber_eq]
  dsimp only
  simp only [daysBeforeYear, epochDay] at hsum hmin hmax ⊢
  split
  · next hmonth =>
      dsimp only
      refine ⟨?_, hmax⟩
      apply Int.not_lt.mp
      intro hneg
      have hyear : yearOfDay (n + 719468) = -1 := by omega
      rw [hyear] at hsum
      omega
  · next hmonth =>
      dsimp only
      refine ⟨by omega, ?_⟩
      apply Int.not_lt.mp
      intro hbeyond
      have hyear : yearOfDay (n + 719468) = 9999 := by omega
      rw [hyear] at hsum
      omega

theorem yearInBounds_iff {year : Int} :
    yearInBounds year = true ↔ minYear ≤ year ∧ year ≤ maxYear := by
  rw [yearInBounds, Bool.and_eq_true, decide_eq_true_eq, decide_eq_true_eq]

/-- The bounds of the years leave room for two hundred thousand of them on both sides of 1970. -/
theorem yearInBounds_ofDayNumber {n : Int} (hmin : -80000000 ≤ n) (hmax : n ≤ 80000000) :
    yearInBounds (ofDayNumber n).year = true := by
  obtain ⟨hbegin, hend⟩ := yearOfDay_spec (n + epochDay)
  have hfirst : minYear ≤ yearOfDay (n + epochDay) := by
    simp only [daysBeforeYear, epochDay, minYear] at hend ⊢
    omega
  have hlast : yearOfDay (n + epochDay) + 1 ≤ maxYear := by
    simp only [daysBeforeYear, epochDay, maxYear] at hbegin ⊢
    omega
  rw [yearInBounds_iff, ofDayNumber_eq]
  dsimp only
  split
  · dsimp only
    omega
  · dsimp only
    omega

theorem isValid_ofDayNumber {n : Int} (hmin : -80000000 ≤ n) (hmax : n ≤ 80000000) :
    (ofDayNumber n).isValid = true := by
  obtain ⟨hmonth, hmonth', hday, hday'⟩ := day_ofDayNumber n
  have hbounds := yearInBounds_ofDayNumber hmin hmax
  simp only [isValid, hbounds, hmonth, hmonth', hday, hday', decide_true, Bool.and_self]

/-! ## Days of dates -/

theorem yearOfDay_eq {day year : Int} (hbegin : daysBeforeYear year ≤ day)
    (hend : day < daysBeforeYear (year + 1)) : yearOfDay day = year := by
  have hspec := yearOfDay_spec day
  have hmono : ∀ {a b : Int}, a < b → daysBeforeYear (a + 1) ≤ daysBeforeYear b := by
    intro a b hab
    simp only [daysBeforeYear]
    omega
  rcases Int.lt_trichotomy (yearOfDay day) year with hlt | heq | hgt
  · have := hmono hlt
    omega
  · exact heq
  · have := hmono hgt
    omega

/-- The date of a day that is found in a month and a year, both counted from March. -/
theorem ofDayNumber_of_parts {n year : Int} {month day : Nat}
    (hn : n + epochDay = daysBeforeYear year + daysBeforeMonth month + day - 1) (hday : 1 ≤ day)
    (hmonth : 5 * (daysBeforeMonth month + day - 1) + 2 < 153 * (month + 1))
    (hend : n + epochDay < daysBeforeYear (year + 1)) :
    ofDayNumber n =
      if month < 10 then ⟨year, month + 3, day⟩ else ⟨year + 1, month - 9, day⟩ := by
  have hyear : yearOfDay (n + epochDay) = year := yearOfDay_eq (by omega) hend
  have hsum := daysBeforeYear_add_dayOfYear n
  have hbefore : daysBeforeMonth month = (153 * month + 2) / 5 := rfl
  rw [hyear] at hsum
  have hfound : (5 * dayOfYear n + 2) / 153 = month := by omega
  have hrest : dayOfYear n - daysBeforeMonth month + 1 = day := by omega
  rw [ofDayNumber_eq, hyear]
  dsimp only
  rw [hfound, hrest]

/-- **A date is the date of its day.** -/
theorem ofDayNumber_dayNumber {d : Date} (h : d.isValid = true) : ofDayNumber d.dayNumber = d := by
  obtain ⟨year, month, day⟩ := d
  simp only [isValid, Bool.and_eq_true, decide_eq_true_eq] at h
  obtain ⟨⟨⟨⟨-, hmonth⟩, hmonth'⟩, hday⟩, hday'⟩ := h
  have hyear := daysBeforeYear_succ (year - 1)
  have hyear' := daysBeforeYear_succ year
  rw [Int.sub_add_cancel] at hyear
  by_cases hwinter : month ≤ 2
  · have hdays : 5 * (daysBeforeMonth (month + 9) + day - 1) + 2 < 153 * (month + 10) ∧
        daysBeforeYear (year - 1) + daysBeforeMonth (month + 9) + day ≤ daysBeforeYear year := by
      obtain rfl | rfl : month = 1 ∨ month = 2 := by omega
      · have hlength : day ≤ 31 := hday'
        simp only [daysBeforeMonth]
        split at hyear <;> omega
      · have hlength : day ≤ if isLeap year then 29 else 28 := hday'
        simp only [daysBeforeMonth]
        by_cases hleap : isLeap year = true
        · rw [if_pos hleap] at hyear hlength
          omega
        · rw [if_neg hleap] at hyear hlength
          omega
    have hn : dayNumber ⟨year, month, day⟩ + epochDay =
        daysBeforeYear (year - 1) + daysBeforeMonth (month + 9) + day - 1 := by
      simp only [dayNumber, if_pos hwinter]
      omega
    rw [ofDayNumber_of_parts hn hday hdays.1 (by rw [Int.sub_add_cancel]; omega),
      if_neg (by omega), Int.sub_add_cancel, Nat.add_sub_cancel]
  · have hdays : 5 * (daysBeforeMonth (month - 3) + day - 1) + 2 < 153 * (month - 2) ∧
        daysBeforeMonth (month - 3) + day ≤ 337 := by
      have hcases : month = 3 ∨ month = 4 ∨ month = 5 ∨ month = 6 ∨ month = 7 ∨ month = 8 ∨
          month = 9 ∨ month = 10 ∨ month = 11 ∨ month = 12 := by omega
      rcases hcases with rfl | rfl | rfl | rfl | rfl | rfl | rfl | rfl | rfl | rfl <;>
        simp [daysInMonth, daysBeforeMonth] at hday' ⊢ <;> omega
    have hn : dayNumber ⟨year, month, day⟩ + epochDay =
        daysBeforeYear year + daysBeforeMonth (month - 3) + day - 1 := by
      simp only [dayNumber, if_neg hwinter]
      omega
    have hmonth3 : month - 3 + 3 = month := by omega
    rw [ofDayNumber_of_parts hn hday (by omega) (by omega), if_pos (by omega), hmonth3]

/-- The date that follows a date. -/
def next (d : Date) : Date :=
  if d.day < daysInMonth d.year d.month then ⟨d.year, d.month, d.day + 1⟩
  else if d.month < 12 then ⟨d.year, d.month + 1, 1⟩
  else ⟨d.year + 1, 1, 1⟩

/-- **Days follow each other as their dates do.** -/
theorem dayNumber_next {d : Date} (h : d.isValid = true) : d.next.dayNumber = d.dayNumber + 1 := by
  obtain ⟨year, month, day⟩ := d
  simp only [isValid, Bool.and_eq_true, decide_eq_true_eq] at h
  obtain ⟨⟨⟨⟨-, hmonth⟩, hmonth'⟩, hday⟩, hday'⟩ := h
  have hyear := daysBeforeYear_succ (year - 1)
  rw [Int.sub_add_cancel] at hyear
  unfold next
  split
  · simp only [dayNumber]
    split <;> omega
  · next hlast =>
      obtain rfl : day = daysInMonth year month := Nat.le_antisymm hday' (Nat.not_lt.mp hlast)
      have hcases : month = 1 ∨ month = 2 ∨ month = 3 ∨ month = 4 ∨ month = 5 ∨ month = 6 ∨
          month = 7 ∨ month = 8 ∨ month = 9 ∨ month = 10 ∨ month = 11 ∨ month = 12 := by omega
      by_cases hleap : isLeap year = true
      · rw [if_pos hleap] at hyear
        rcases hcases with rfl | rfl | rfl | rfl | rfl | rfl | rfl | rfl | rfl | rfl | rfl | rfl <;>
          simp [dayNumber, daysInMonth, daysBeforeMonth, hleap] <;> omega
      · rw [if_neg hleap] at hyear
        rcases hcases with rfl | rfl | rfl | rfl | rfl | rfl | rfl | rfl | rfl | rfl | rfl | rfl <;>
          simp [dayNumber, daysInMonth, daysBeforeMonth, hleap] <;> omega

end Date

/-! ## Points in time -/

namespace DateTime

/-- The time from the beginning of year 0 to the end of year 9999, in seconds. -/
def InFourDigits (s : Int) : Prop := -62167219200 ≤ s ∧ s ≤ 253402300799

theorem InFourDigits.day {s : Int} (h : InFourDigits s) :
    -719528 ≤ s / 86400 ∧ s / 86400 ≤ 2932896 := by
  unfold InFourDigits at h
  omega

theorem time_ofSeconds (s : Int) :
    (ofSeconds s).hour < 24 ∧ (ofSeconds s).minute < 60 ∧ (ofSeconds s).second < 60 ∧
      ((ofSeconds s).hour * 3600 + (ofSeconds s).minute * 60 + (ofSeconds s).second : Int) =
        s % 86400 := by
  simp only [ofSeconds]
  omega

theorem seconds_ofSeconds (s : Int) : (ofSeconds s).seconds = s := by
  have htime := (time_ofSeconds s).2.2.2
  have hdate : (ofSeconds s).date.dayNumber = s / 86400 := Date.dayNumber_ofDayNumber (s / 86400)
  unfold seconds
  rw [hdate]
  omega

theorem isValid_ofSeconds {s : Int} (hmin : -80000000 ≤ s / 86400)
    (hmax : s / 86400 ≤ 80000000) : (ofSeconds s).isValid = true := by
  have hdate : (ofSeconds s).date.isValid = true := Date.isValid_ofDayNumber hmin hmax
  obtain ⟨hhour, hminute, hsecond, -⟩ := time_ofSeconds s
  simp only [isValid, hdate, hhour, hminute, hsecond, decide_true, Bool.and_self]

/-- **A point in time is that of its seconds.** -/
theorem ofSeconds_seconds {t : DateTime} (h : t.isValid = true) : ofSeconds t.seconds = t := by
  simp only [isValid, Bool.and_eq_true, decide_eq_true_eq] at h
  obtain ⟨⟨⟨hdate, hhour⟩, hminute⟩, hsecond⟩ := h
  have hday : t.seconds / 86400 = t.date.dayNumber := by
    unfold seconds
    omega
  have htime : (t.seconds % 86400).toNat = t.hour * 3600 + t.minute * 60 + t.second := by
    unfold seconds
    omega
  have hh : (t.hour * 3600 + t.minute * 60 + t.second) / 3600 = t.hour := by omega
  have hm : (t.hour * 3600 + t.minute * 60 + t.second) / 60 % 60 = t.minute := by omega
  have hs : (t.hour * 3600 + t.minute * 60 + t.second) % 60 = t.second := by omega
  unfold ofSeconds
  rw [hday, Date.ofDayNumber_dayNumber hdate]
  simp only [htime, hh, hm, hs]

theorem inFourDigits_seconds {t : DateTime} (h : t.isValid = true) (hmin : 0 ≤ t.date.year)
    (hmax : t.date.year ≤ 9999) : InFourDigits t.seconds := by
  have hlength := Date.daysInMonth_le t.date.year t.date.month
  simp only [isValid, Date.isValid, Bool.and_eq_true, decide_eq_true_eq] at h
  obtain ⟨⟨⟨⟨⟨⟨⟨-, hmonth⟩, hmonth'⟩, hday⟩, hday'⟩, hhour⟩, hminute⟩, hsecond⟩ := h
  have hnumber : -719528 ≤ t.date.dayNumber ∧ t.date.dayNumber ≤ 2932896 := by
    simp only [Date.dayNumber, Date.daysBeforeYear, Date.daysBeforeMonth, Date.epochDay]
    split <;> omega
  unfold InFourDigits seconds
  omega

theorem InFourDigits.isValid {s : Int} (h : InFourDigits s) : (ofSeconds s).isValid = true := by
  obtain ⟨hfirst, hlast⟩ := h.day
  exact isValid_ofSeconds (by omega) (by omega)

theorem ofSeconds?_eq {s : Int} (h : InFourDigits s) : ofSeconds? s = some (ofSeconds s) := by
  have hbounds : Date.yearInBounds (ofSeconds s).date.year = true := by
    obtain ⟨hfirst, hlast⟩ := h.day
    exact Date.yearInBounds_ofDayNumber (by omega) (by omega)
  rw [ofSeconds?, if_pos hbounds]

end DateTime

end HttpExchange
