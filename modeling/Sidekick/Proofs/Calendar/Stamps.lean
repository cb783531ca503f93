import Mathlib.Data.Nat.Digits.Defs
import Sidekick.Proofs.Calendar.Days
import Sidekick.Calendar.Zone

namespace Sidekick.Calendar
open Number

theorem length_padded {width n : Nat} (pos : 0 < width) (small : n < 10 ^ width) :
    (padded width n).toList.length = width := by
  have most := (Nat.length_toDigits_le_iff (b := 10) (by decide) pos).mpr small
  simp only [padded, String.toList_ofList, List.length_append, List.length_replicate]
  omega

theorem ofDigitChars_padded (width n : Nat) :
    Nat.ofDigitChars 10 (padded width n).toList 0 = n := by
  have zeros (k : Nat) : Nat.ofDigitChars 10 (List.replicate k '0') 0 = 0 := by
    induction k with
    | zero => rfl
    | succ k ih => exact ih
  rw [padded, String.toList_ofList, Nat.ofDigitChars_append, zeros]
  exact Nat.ofDigitChars_toDigits (by decide) (by decide)

theorem padded_inj {width n m : Nat} (h : (padded width n).toList = (padded width m).toList) :
    n = m := by
  rw [← ofDigitChars_padded width n, h, ofDigitChars_padded]

def hourPrefix (date : Date) (hour : Nat) : List Char :=
  (date.text ++ "T" ++ padded 2 hour).toList

structure Fits (date : Date) (hour : Nat) : Prop where
  year : date.year.toNat < 10 ^ 4
  month : date.month < 10 ^ 2
  day : date.day < 10 ^ 2
  hour : hour < 10 ^ 2

theorem hourPrefix_eq (date : Date) (hour : Nat) : hourPrefix date hour =
    (padded 4 date.year.toNat).toList ++ ('-' :: ((padded 2 date.month).toList ++
      ('-' :: ((padded 2 date.day).toList ++ ('T' :: (padded 2 hour).toList))))) := by
  simp [hourPrefix, Date.text]

section

variable {d e : Date} {h k : Nat}

theorem Fits.length_hourPrefix (fits : Fits d h) : (hourPrefix d h).length = 13 := by
  rw [hourPrefix_eq]
  simp only [List.length_append, List.length_cons, length_padded (by decide) fits.year,
    length_padded (by decide) fits.month, length_padded (by decide) fits.day,
    length_padded (by decide) fits.hour]

theorem hourPrefix_inj (hd : Fits d h) (he : Fits e k) (same : hourPrefix d h = hourPrefix e k) :
    d.year.toNat = e.year.toNat ∧ d.month = e.month ∧ d.day = e.day ∧ h = k := by
  have field {width n m : Nat} {a b : List Char} (pos : 0 < width) (hn : n < 10 ^ width)
      (hm : m < 10 ^ width) (eq : (padded width n).toList ++ a = (padded width m).toList ++ b) :
      n = m ∧ a = b := by
    obtain ⟨text, rest⟩ := List.append_inj eq
      (by rw [length_padded pos hn, length_padded pos hm])
    exact ⟨padded_inj text, rest⟩
  rw [hourPrefix_eq, hourPrefix_eq] at same
  obtain ⟨year, same⟩ := field (by decide) hd.year he.year same
  obtain ⟨month, same⟩ := field (by decide) hd.month he.month (List.cons.inj same).2
  obtain ⟨day, same⟩ := field (by decide) hd.day he.day (List.cons.inj same).2
  exact ⟨year, month, day, padded_inj (List.cons.inj same).2⟩

end

structure LocalStamp where
  date : Date
  hour : Nat
  minute : Nat
  year_nonneg : 0 ≤ date.year
  fits : Fits date hour
  minute_lt : minute < 10 ^ 2

def LocalStamp.text (stamp : LocalStamp) : String :=
  stamp.date.text ++ "T" ++ padded 2 stamp.hour ++ ":" ++ padded 2 stamp.minute

theorem LocalStamp.begins_iff (stamp : LocalStamp) {date : Date} {hour : Nat}
    (year : 0 ≤ date.year) (fits : Fits date hour) :
    hourPrefix date hour <+: stamp.text.toList ↔ stamp.date = date ∧ stamp.hour = hour := by
  have text : stamp.text.toList =
      hourPrefix stamp.date stamp.hour ++ (":" ++ padded 2 stamp.minute).toList := by
    simp [LocalStamp.text, hourPrefix]
  rw [text]
  constructor
  · intro begins
    have same : hourPrefix date hour = hourPrefix stamp.date stamp.hour := by
      rw [List.prefix_iff_eq_take.mp begins, fits.length_hourPrefix,
        ← stamp.fits.length_hourPrefix, List.take_left]
    obtain ⟨years, month, day, rfl⟩ := hourPrefix_inj fits stamp.fits same
    have nonneg := stamp.year_nonneg
    refine ⟨?_, rfl⟩
    cases date
    cases hs : stamp.date
    simp only [hs, Date.mk.injEq] at years month day nonneg ⊢
    dsimp only at year
    exact ⟨by omega, month.symm, day.symm⟩
  · rintro ⟨rfl, rfl⟩
    exact List.prefix_append _ _

theorem fits_dateOf {seconds : Int} {hour : Nat}
    (writable : isWritableYear (dateOf seconds).year = true) (small : hour < 10 ^ 2) :
    0 ≤ (dateOf seconds).year ∧ Fits (dateOf seconds) hour := by
  obtain ⟨month, day⟩ := ofDays_bounds (seconds / 86400)
  simp only [isWritableYear, Bool.and_eq_true, decide_eq_true_eq] at writable
  exact ⟨by omega, by omega, month, day, small⟩

theorem dateOf_bounds (seconds : Int) : 86400 * (dateOf seconds).toDays ≤ seconds ∧
    seconds < 86400 * (dateOf seconds).toDays + 86400 := by
  rw [dateOf, toDays_ofDays]
  omega

theorem lt_hour_iff (seconds : Int) (hour : Nat) :
    seconds < 86400 * (dateOf seconds).toDays + 3600 * hour ↔ hourOf seconds < hour := by
  rw [dateOf, toDays_ofDays, hourOf]
  omega

theorem of_localSeconds {zone : Zone} {seconds localTime : Int}
    (h : zone.localSeconds seconds = .ok localTime) :
    localTime = seconds + zone.offset seconds ∧
      isWritableYear (dateOf localTime).year = true := by
  rw [Zone.localSeconds, inCalendar] at h
  by_cases writable : isWritableYear (dateOf seconds).year
  · simp only [if_pos writable, bind, Except.bind] at h
    split at h
    · cases h
      exact ⟨rfl, ‹_›⟩
    · cases h
  · simp only [if_neg writable, bind, Except.bind, reduceCtorEq] at h

def zoneNames : List String :=
  ["Europe/Berlin", "America/New_York", "America/Los_Angeles", "America/St_Johns",
    "Australia/Sydney", "Asia/Kolkata", "Asia/Kathmandu", "Asia/Tokyo", "Pacific/Kiritimati"]

theorem offset_of_unknown {name : String} (unknown : name ∉ zoneNames) (seconds : Int) :
    (Zone.ofName name).offset seconds = 0 := by
  have universal : Zone.ofName name = .universal := by
    unfold Zone.ofName
    split
    all_goals first | rfl | exact absurd (by decide) unknown
  rw [universal]
  rfl

end Sidekick.Calendar
