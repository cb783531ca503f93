import Sidekick.Calendar.Date

namespace Sidekick.Calendar

theorem exists_cycles {day : Nat} (less : day < 146097) : ∃ c q t, day = 36524 * c + 1461 * q + t ∧
    c ≤ 3 ∧ q ≤ 24 ∧ t ≤ 1460 ∧ day / 36524 = c + day / 146096 := by
  refine ⟨min (day / 36524) 3, (day - 36524 * min (day / 36524) 3) / 1461,
    (day - 36524 * min (day / 36524) 3) % 1461, ?_⟩
  generalize hc : min (day / 36524) 3 = c
  omega

theorem yearOfEra_bounds {day year : Nat} (less : day < 146097)
    (h : year = (day - day / 1460 + day / 36524 - day / 146096) / 365) :
    365 * year + year / 4 - year / 100 ≤ day ∧ year < 400 ∧
      day - (365 * year + year / 4 - year / 100) ≤ 365 := by
  obtain ⟨c, q, t, rfl, hc, hq, ht, centuries⟩ := exists_cycles less
  have quotient : (36524 * c + 1461 * q + t) / 1460 = 25 * c + q + (24 * c + q + t) / 1460 := by
    omega
  rw [quotient, centuries] at h
  have carry : (24 * c + q + t) / 1460 ≤ 1 := by omega
  have years : year = 100 * c + 4 * q + (t - (24 * c + q + t) / 1460) / 365 := by omega
  generalize hk : (t - (24 * c + q + t) / 1460) / 365 = k at years
  have four : k ≤ 3 ∧ 365 * k ≤ t ∧ t ≤ 365 * k + 365 := by omega
  have leap : year / 4 = 25 * c + q := by omega
  have century : year / 100 = c := by omega
  omega

theorem month_bounds {rest month : Nat} (most : rest ≤ 365) (h : month = (5 * rest + 2) / 153) :
    daysBeforeMonth month ≤ rest ∧ rest - daysBeforeMonth month < 31 ∧ month < 12 := by
  unfold daysBeforeMonth
  omega

theorem daysBeforeMarch_era {era : Int} {year : Nat} (small : year < 400) :
    daysBeforeMarch (400 * era + year) =
      146097 * era + (365 * year + year / 4 - year / 100 : Nat) := by
  unfold daysBeforeMarch
  omega

/-- A day lies in a month of a year that begins in March. -/
structure InMonth (days : Int) (year : Int) (month day : Nat) : Prop where
  number : days + epoch = daysBeforeMarch year + daysBeforeMonth month + day
  twelve : month < 12
  short : day < 31
  date : Date.ofDays days =
    if month < 10 then ⟨year, month + 3, day + 1⟩ else ⟨year + 1, month - 9, day + 1⟩

theorem exists_inMonth (days : Int) : ∃ year month day, InMonth days year month day := by
  generalize hn : days + epoch = n
  generalize hday : (n % 146097).toNat = day
  have parts : n = 146097 * (n / 146097) + day := by omega
  have less : day < 146097 := by omega
  generalize hera : n / 146097 = era at parts
  generalize hyear : (day - day / 1460 + day / 36524 - day / 146096) / 365 = year
  obtain ⟨before, small, most⟩ := yearOfEra_bounds less hyear.symm
  have march := @daysBeforeMarch_era era year small
  generalize hstart : 365 * year + year / 4 - year / 100 = start at before most march
  generalize hmonth : (5 * (day - start) + 2) / 153 = month
  obtain ⟨first, last, twelve⟩ := month_bounds most hmonth.symm
  refine ⟨400 * era + year, month, day - start - daysBeforeMonth month, ⟨?_, twelve, last, ?_⟩⟩
  · rw [march]
    omega
  · simp only [Date.ofDays, hn, hday, hera, hyear, hstart, hmonth]
    split <;> rfl

theorem toDays_ofDays (days : Int) : (Date.ofDays days).toDays = days := by
  obtain ⟨year, month, day, inMonth⟩ := exists_inMonth days
  have twelve := inMonth.twelve
  have sum := inMonth.number
  rw [inMonth.date]
  by_cases early : month < 10
  · have number : (month + 3 + 9) % 12 = month := by omega
    rw [if_pos early, Date.toDays, if_neg (by dsimp only; omega)]
    simp only [number]
    omega
  · have number : (month - 9 + 9) % 12 = month := by omega
    rw [if_neg early, Date.toDays, if_pos (by dsimp only; omega)]
    simp only [number, Int.add_sub_cancel]
    omega

theorem ofDays_bounds (days : Int) :
    (Date.ofDays days).month < 100 ∧ (Date.ofDays days).day < 100 := by
  obtain ⟨year, month, day, inMonth⟩ := exists_inMonth days
  have twelve := inMonth.twelve
  have last := inMonth.short
  rw [inMonth.date]
  split
  · exact ⟨by dsimp only; omega, by dsimp only; omega⟩
  · exact ⟨by dsimp only; omega, by dsimp only; omega⟩

end Sidekick.Calendar
