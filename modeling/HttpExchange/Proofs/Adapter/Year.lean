import HttpExchange.Proofs.Adapter
import HttpExchange.Proofs.Calendar.Moment

/-!
# Years that go in and come out

The year of a date is stored as a number, and nothing tells that number from a
count of seconds. When it is shown it is taken for a year if it is a plausible
one, and for seconds otherwise. All the years of the calendar are few as seconds:
they are within four days of the beginning of 1970. So a year comes back if it is
plausible, and as 1969 or 1970 if it is not.

## Main definitions

* `Adapter.yearShown` — the year that is shown for a stored one.

## Main results

* `Adapter.year_adaptOut` — what is shown for the years of the calendar.
* `Adapter.year_of_date` — the year of a date goes in, and comes out if it is plausible.
* `Adapter.year_of_implausible_dates` — years that do not come out.
-/

namespace HttpExchange

namespace Date

/-- The days that as many seconds as there are years are away from the beginning of 1970. -/
theorem year_ofDayNumber_near {n : Int} (hmin : -4 ≤ n) (hmax : n ≤ 3) :
    (ofDayNumber n).year = if n < 0 then 1969 else 1970 := by
  have hcases : n = -4 ∨ n = -3 ∨ n = -2 ∨ n = -1 ∨ n = 0 ∨ n = 1 ∨ n = 2 ∨ n = 3 := by omega
  rcases hcases with rfl | rfl | rfl | rfl | rfl | rfl | rfl | rfl <;> decide

end Date

namespace Adapter

/-- The year that is shown for a stored year: itself if it is plausible, and else the year that it
falls into as a number of seconds. -/
def yearShown (year : Int) : Int :=
  if 1970 ≤ year ∧ year ≤ 2100 then year else if year < 0 then 1969 else 1970

theorem isPlausibleYear_iff {year : Int} :
    isPlausibleYear year = true ↔ 1970 ≤ year ∧ year ≤ 2100 := by
  rw [isPlausibleYear, Bool.and_eq_true, decide_eq_true_eq, decide_eq_true_eq]

theorem yearShown_eq_self_iff {year : Int} :
    yearShown year = year ↔ 1970 ≤ year ∧ year ≤ 2100 := by
  unfold yearShown
  split
  · next h => exact iff_of_true rfl h
  · split <;> omega

/-- What is shown for the years of the calendar. -/
theorem year_adaptOut {year : Int} (hbounds : Date.yearInBounds year = true) :
    Adapter.year.adaptOut (.ofInt year) = .ok (.ofInt (yearShown year)) := by
  rw [Date.yearInBounds_iff, Date.minYear, Date.maxYear] at hbounds
  have hinteger := Json.toInteger?_ofInt (i := year)
    (by simp only [Numeral.minInt64]; omega) (by simp only [Numeral.maxInt64]; omega)
  show orInvalid "invalid_year" (yearOut? (.ofInt year)) = _
  rw [yearOut?, hinteger, Option.bind_some]
  by_cases hplausible : 1970 ≤ year ∧ year ≤ 2100
  · rw [if_pos (isPlausibleYear_iff.mpr hplausible), yearShown, if_pos hplausible]
    rfl
  · -- as a number of seconds, the year is within the four days around the beginning of 1970
    have hyear : (DateTime.ofSeconds year).date.year = if year < 0 then 1969 else 1970 := by
      show (Date.ofDayNumber (year / 86400)).year = _
      rw [Date.year_ofDayNumber_near (by omega) (by omega)]
      split <;> split <;> omega
    have hheld : Date.yearInBounds (DateTime.ofSeconds year).date.year = true := by
      rw [hyear]
      split <;> decide
    rw [if_neg (mt isPlausibleYear_iff.mp hplausible), yearShown, if_neg hplausible,
      DateTime.ofSeconds?, if_pos hheld, Option.map_some, hyear]
    rfl

/-- A date is stored as its year. -/
theorem year_adaptIn {t : Text} {s : Int} (h : Moment.read? t = some s) :
    Adapter.year.adaptIn (.str t) = .ok (.ofInt (yearOf s)) := by
  have hinteger : (Json.str t).toInteger? = none := Moment.integerOfText?_of_read? h
  show orInvalid "invalid_date" (yearIn? (.str t)) = _
  rw [yearIn?, hinteger]
  show orInvalid "invalid_date" ((Moment.read? t).map fun seconds => .ofInt (yearOf seconds)) = _
  rw [h, Option.map_some, orInvalid]

/-- **The year of a date goes in, and comes out if it is plausible.** Every text that is taken for a
point in time is stored as the year of that point in universal time. The years from 1970 to 2100
come out as they went in. Each of the others is taken for a number of seconds, so what comes out is
1969 for a year before the year 0 and 1970 for any other. -/
theorem year_of_date {t : Text} {s : Int} (h : Moment.read? t = some s) :
    ∃ p : DateTime, p.isValid = true ∧ p.seconds = s ∧
      Adapter.year.adaptIn (.str t) = .ok (.ofInt p.date.year) ∧
      Adapter.year.adaptOut (.ofInt p.date.year) = .ok (.ofInt (yearShown p.date.year)) ∧
      (yearShown p.date.year = p.date.year ↔ 1970 ≤ p.date.year ∧ p.date.year ≤ 2100) := by
  obtain ⟨p, hvalid, hp⟩ := Moment.exists_of_read? h
  have hyear : yearOf s = p.date.year := by
    rw [← hp, yearOf, DateTime.ofSeconds_seconds hvalid]
  refine ⟨p, hvalid, hp, ?_, year_adaptOut (DateTime.yearInBounds_of_isValid hvalid),
    yearShown_eq_self_iff⟩
  rw [year_adaptIn h, hyear]

/-- A timestamp on the last day of a year, which in universal time is in the next one, and a date of
the first century that names the day first. -/
theorem year_of_timestamp_and_layout :
    (Adapter.year.adaptIn (.str "2023-12-31T23:30:00-01:00") = .ok (.ofInt 2024) ∧
      Adapter.year.adaptOut (.ofInt 2024) = .ok (.ofInt 2024)) ∧
    Adapter.year.adaptIn (.str " 24/8/79") = .ok (.ofInt 79) ∧
      Adapter.year.adaptOut (.ofInt 79) = .ok (.ofInt 1970) := by
  have hstamp : Moment.read? "2023-12-31T23:30:00-01:00" = some 1704069000 := by decide +kernel
  have hdate : Moment.read? " 24/8/79" = some (-59653843200) := by decide +kernel
  obtain ⟨p, hp, hseconds, hin, hout, -⟩ := year_of_date hstamp
  obtain ⟨q, hq, hseconds', hin', hout', -⟩ := year_of_date hdate
  have hyear : p.date.year = 2024 := by
    rw [← DateTime.ofSeconds_seconds hp, hseconds]
    decide +kernel
  have hyear' : q.date.year = 79 := by
    rw [← DateTime.ofSeconds_seconds hq, hseconds']
    decide +kernel
  rw [hyear] at hin hout
  rw [hyear'] at hin' hout'
  exact ⟨⟨hin, hout⟩, hin', hout'⟩

/-- **A year before 1970 and one after 2100 come out as another year.** -/
theorem year_of_implausible_dates :
    (Moment.read? "1969-07-20" = some (-14256000) ∧ yearOf (-14256000) = 1969 ∧
      Adapter.year.adaptIn (.str "1969-07-20") = .ok (.ofInt 1969) ∧
      Adapter.year.adaptOut (.ofInt 1969) = .ok (.ofInt 1970)) ∧
    (Moment.read? "2101-01-01" = some 4133980800 ∧ yearOf 4133980800 = 2101 ∧
      Adapter.year.adaptIn (.str "2101-01-01") = .ok (.ofInt 2101) ∧
      Adapter.year.adaptOut (.ofInt 2101) = .ok (.ofInt 1970)) ∧
    ¬ ∀ t s, Moment.read? t = some s →
      Adapter.year.adaptIn (.str t) = .ok (.ofInt (yearOf s)) ∧
        Adapter.year.adaptOut (.ofInt (yearOf s)) = .ok (.ofInt (yearOf s)) := by
  have hread : Moment.read? "1969-07-20" = some (-14256000) := by decide +kernel
  have hyear : yearOf (-14256000) = 1969 := by decide +kernel
  have hshown : Adapter.year.adaptOut (.ofInt 1969) = .ok (.ofInt 1970) := by decide +kernel
  refine ⟨⟨hread, hyear, by decide +kernel, hshown⟩, by decide +kernel, fun hkept => ?_⟩
  obtain ⟨-, hsame⟩ := hkept _ _ hread
  rw [hyear, hshown] at hsame
  exact absurd (Numeral.ofInt_injective (Json.num.inj (Except.ok.inj hsame))) (by decide)

end Adapter

end HttpExchange
