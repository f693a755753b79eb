import HttpExchange.Proofs.Adapter

/-!
# Points in time that go out and come back

A point in time is stored as a number of seconds and shown as a timestamp. Every
text that is taken for a point in time, whatever its layout, is stored as such a
number, so the timestamp that is shown for it need not be the text that was given,
but it stands for the same seconds. A timestamp as it is shown comes back as it is.

## Main results

* `Adapter.dateTime_text` — a timestamp that was written goes in and comes out as it is.
* `Adapter.dateTime_there_and_back` — seconds that are shown and read again.
-/

namespace HttpExchange.Adapter

/-- **A timestamp that was written goes in and comes out as it is.** -/
theorem dateTime_text {p : DateTime} (h : p.isValid = true) (hmin : 0 ≤ p.date.year)
    (hmax : p.date.year ≤ 9999) :
    Adapter.dateTime.adaptIn (.str (Timestamp.text p)) = .ok (.ofInt p.seconds) ∧
      Adapter.dateTime.adaptOut (.ofInt p.seconds) = .ok (.str (Timestamp.text p)) := by
  have hshown := dateTime_adaptOut (DateTime.inFourDigits_seconds h hmin hmax)
  rw [DateTime.ofSeconds_seconds h] at hshown
  exact ⟨dateTime_adaptIn_of_isRfc3339 (Timestamp.isRfc3339_text h hmin hmax), hshown⟩

/-- What a text is stored as is a number of seconds. -/
theorem exists_of_dateTime_adaptIn {t : Text} {v : Json}
    (h : Adapter.dateTime.adaptIn (.str t) = .ok v) : ∃ s, v = .ofInt s := by
  rw [dateTime_adaptIn_str, orInvalid_eq_ok_iff] at h
  obtain ⟨s, -, rfl⟩ := Option.map_eq_some_iff.mp h
  exact ⟨s, rfl⟩

/-- **Points in time survive being shown.** In the years that four digits name, a number of seconds
is shown as a timestamp that denotes it and is stored as that number again. Every timestamp is
stored as what it denotes, and what any text is stored as is shown as a text that is stored as the
same. -/
theorem dateTime_there_and_back :
    (∀ s, DateTime.InFourDigits s →
      ∃ t, Adapter.dateTime.adaptOut (.ofInt s) = .ok (.str t) ∧ Timestamp.IsRfc3339 t s ∧
        Adapter.dateTime.adaptIn (.str t) = .ok (.ofInt s)) ∧
    (∀ t s, Timestamp.IsRfc3339 t s → Adapter.dateTime.adaptIn (.str t) = .ok (.ofInt s)) ∧
    ∀ t v, Adapter.dateTime.adaptIn (.str t) = .ok v →
      ∃ s, v = .ofInt s ∧ (DateTime.InFourDigits s →
        ∃ shown, Adapter.dateTime.adaptOut v = .ok shown ∧
          Adapter.dateTime.adaptIn shown = .ok v) := by
  refine ⟨?shown, ?timestamps, ?texts⟩
  case shown =>
    intro s h
    have hstamp := Timestamp.isRfc3339_text_ofSeconds h
    exact ⟨_, dateTime_adaptOut h, hstamp, dateTime_adaptIn_of_isRfc3339 hstamp⟩
  case timestamps =>
    intro t s h
    exact dateTime_adaptIn_of_isRfc3339 h
  case texts =>
    intro t v h
    obtain ⟨s, rfl⟩ := exists_of_dateTime_adaptIn h
    exact ⟨s, rfl, fun hs => ⟨_, dateTime_adaptOut hs, dateTime_adaptIn hs⟩⟩

/-- The first and the last second, a leap second before midnight in the west with a fraction, and
a date in a layout that names the day first. -/
theorem dateTime_of_bounds_and_layouts :
    (∃ t, Adapter.dateTime.adaptOut (.ofInt (-62167219200)) = .ok (.str t) ∧
      Timestamp.IsRfc3339 t (-62167219200) ∧
      Adapter.dateTime.adaptIn (.str t) = .ok (.ofInt (-62167219200))) ∧
    (∃ t, Adapter.dateTime.adaptOut (.ofInt 253402300799) = .ok (.str t) ∧
      Timestamp.IsRfc3339 t 253402300799 ∧
      Adapter.dateTime.adaptIn (.str t) = .ok (.ofInt 253402300799)) ∧
    Adapter.dateTime.adaptIn (.str "2016-12-31T18:59:60.5-05:00") = .ok (.ofInt 1483228799) ∧
    ∃ shown, Adapter.dateTime.adaptIn (.str " 29/02/2024") = .ok (.ofInt 1709164800) ∧
      Adapter.dateTime.adaptOut (.ofInt 1709164800) = .ok shown ∧
      Adapter.dateTime.adaptIn shown = .ok (.ofInt 1709164800) := by
  obtain ⟨hshown, hstamps, htexts⟩ := dateTime_there_and_back
  have hyear : Timestamp.IsNumber 4 "2016" 2016 := ⟨rfl, by decide, rfl⟩
  have hmonth : Timestamp.IsNumber 2 "12" 12 := ⟨rfl, by decide, rfl⟩
  have hday : Timestamp.IsNumber 2 "31" 31 := ⟨rfl, by decide, rfl⟩
  have hhour : Timestamp.IsNumber 2 "18" 18 := ⟨rfl, by decide, rfl⟩
  have hminute : Timestamp.IsNumber 2 "59" 59 := ⟨rfl, by decide, rfl⟩
  have hsecond : Timestamp.IsNumber 2 "60" 60 := ⟨rfl, by decide, rfl⟩
  have hfive : Timestamp.IsNumber 2 "05" 5 := ⟨rfl, by decide, rfl⟩
  have hzero : Timestamp.IsNumber 2 "00" 0 := ⟨rfl, by decide, rfl⟩
  have hleap : Timestamp.IsRfc3339 "2016-12-31T18:59:60.5-05:00" 1483228799 :=
    .mk (.mk hyear hmonth hday (by decide)) (.inl rfl)
      (.mk hhour (by decide) hminute (by decide) hsecond (by decide))
      (.digits (t := ['5']) (by decide) (by decide)) (.west hfive (by decide) hzero (by decide))
  have hlayout : Adapter.dateTime.adaptIn (.str " 29/02/2024") = .ok (.ofInt 1709164800) := by
    decide +kernel
  obtain ⟨s, hs, hback⟩ := htexts _ _ hlayout
  obtain rfl : s = 1709164800 := (Numeral.ofInt_injective (Json.num.inj hs)).symm
  obtain ⟨shown, hout, hin⟩ := hback ⟨by decide, by decide⟩
  exact ⟨hshown _ ⟨by decide, by decide⟩, hshown _ ⟨by decide, by decide⟩, hstamps _ _ hleap, shown,
    hlayout, hout, hin⟩

end HttpExchange.Adapter
