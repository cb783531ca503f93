import Sidekick.Calendar.Stamp
import Sidekick.Proofs.Calendar.Days
import Sidekick.Proofs.Number.Whole

namespace Sidekick.Calendar
open Number

theorem year_le_iff (days year : Int) :
    (Date.ofDays days).year ≤ year ↔ days + epoch < daysBeforeMarch year + 306 := by
  obtain ⟨march, month, day, inMonth⟩ := exists_inMonth days
  have number := inMonth.number
  have twelve := inMonth.twelve
  have short := inMonth.short
  rw [inMonth.date, number]
  unfold daysBeforeMarch daysBeforeMonth
  -- January and February count for the year that began in the March before.
  by_cases early : month < 10
  · rw [if_pos early]
    dsimp only
    omega
  · rw [if_neg early]
    dsimp only
    omega

/-- The first second of the year 1. -/
def firstWritable : Int := -62135596800

/-- The first second after the year 9999. -/
def firstUnwritable : Nat := 253402300800

theorem isWritableYear_dateOf_iff (seconds : Int) : isWritableYear (dateOf seconds).year = true ↔
    firstWritable ≤ seconds ∧ seconds < firstUnwritable := by
  have least := year_le_iff (seconds / 86400) 0
  have most := year_le_iff (seconds / 86400) 9999
  rw [isWritableYear, Bool.and_eq_true, decide_eq_true_iff, decide_eq_true_iff, dateOf, most]
  unfold daysBeforeMarch epoch at least most
  unfold firstWritable firstUnwritable daysBeforeMarch epoch
  omega

theorem inCalendar_eq (seconds : Int) : inCalendar seconds =
    if firstWritable ≤ seconds ∧ seconds < firstUnwritable then .ok seconds
    else .error (.yearOutOfRange (dateOf seconds).year) := by
  rw [inCalendar]
  exact if_congr (isWritableYear_dateOf_iff seconds) rfl rfl

def firstStampable (looksBack : Bool) : Int :=
  if looksBack then firstWritable + 86400 else firstWritable

def IsStampable (looksBack : Bool) (seconds : Int) : Prop :=
  firstStampable looksBack ≤ seconds ∧ seconds < firstUnwritable

instance (looksBack : Bool) (seconds : Int) : Decidable (IsStampable looksBack seconds) :=
  inferInstanceAs (Decidable (_ ∧ _))

theorem inCalendar_dayBefore {seconds : Int}
    (writable : firstWritable ≤ seconds ∧ seconds < firstUnwritable) :
    inCalendar (seconds - 86400) =
      if IsStampable true seconds then .ok (seconds - 86400) else .error (.yearOutOfRange 0) := by
  rw [inCalendar_eq]
  by_cases first : seconds < firstWritable + 86400
  · have least := year_le_iff ((seconds - 86400) / 86400) (-1)
    have most := year_le_iff ((seconds - 86400) / 86400) 0
    have before : (dateOf (seconds - 86400)).year = 0 := by
      rw [dateOf]
      unfold daysBeforeMarch epoch at least most
      unfold firstWritable at first writable
      omega
    rw [if_neg (by omega), before, if_neg fun stampable => absurd stampable.1 (not_le.mpr first)]
  · rw [if_pos (by omega), if_pos ⟨not_lt.mp first, writable.2⟩]

section

variable {looksBack : Bool} {x : Float} {seconds : Int}

theorem wholeSeconds_of_floor (whole : floor x = .ok seconds) :
    wholeSeconds x = inCalendar seconds := by
  rw [wholeSeconds, whole]
  rfl

theorem stamp_of_writable (whole : floor x = .ok seconds)
    (writable : firstWritable ≤ seconds ∧ seconds < firstUnwritable) : stamp looksBack x =
      if IsStampable looksBack seconds then .ok (stampText seconds)
      else .error (.yearOutOfRange 0) := by
  rw [stamp, wholeSeconds_of_floor whole, inCalendar_eq, if_pos writable]
  cases looksBack with
  | false =>
      rw [if_pos (show IsStampable false seconds from writable)]
      rfl
  | true =>
      dsimp only [bind, Except.bind]
      rw [inCalendar_dayBefore writable]
      by_cases stampable : IsStampable true seconds
      · rw [if_pos stampable, if_pos stampable]
        rfl
      · rw [if_neg stampable, if_neg stampable]
        rfl

theorem stamp_of_unwritable (whole : floor x = .ok seconds)
    (outside : ¬ (firstWritable ≤ seconds ∧ seconds < firstUnwritable)) :
    stamp looksBack x = .error (.yearOutOfRange (dateOf seconds).year) := by
  rw [stamp, wholeSeconds_of_floor whole, inCalendar_eq, if_neg outside]
  rfl

theorem IsStampable.writable (h : IsStampable looksBack seconds) :
    firstWritable ≤ seconds ∧ seconds < firstUnwritable := by
  have first : firstWritable ≤ firstStampable looksBack := by
    unfold firstStampable firstWritable
    split <;> omega
  exact ⟨first.trans h.1, h.2⟩

theorem stamp_of_isStampable (whole : floor x = .ok seconds)
    (stampable : IsStampable looksBack seconds) :
    stamp looksBack x = .ok (stampText seconds) := by
  rw [stamp_of_writable whole stampable.writable, if_pos stampable]

theorem exists_fault_of_not_isStampable (whole : floor x = .ok seconds)
    (unstampable : ¬ IsStampable looksBack seconds) :
    ∃ fault, stamp looksBack x = .error fault := by
  by_cases writable : firstWritable ≤ seconds ∧ seconds < firstUnwritable
  · exact ⟨_, (stamp_of_writable whole writable).trans (if_neg unstampable)⟩
  · exact ⟨_, stamp_of_unwritable whole writable⟩

theorem stamp_eq_ok_iff {text : String} : stamp looksBack x = .ok text ↔
    ∃ seconds, floor x = .ok seconds ∧ IsStampable looksBack seconds ∧
      stampText seconds = text := by
  cases whole : floor x with
  | error reason =>
      rw [stamp, wholeSeconds, whole]
      simp [wholeOrFault, bind, Except.bind, Except.mapError]
  | ok seconds =>
      by_cases stampable : IsStampable looksBack seconds
      · simp [stamp_of_isStampable whole stampable, stampable]
      · obtain ⟨fault, failed⟩ := exists_fault_of_not_isStampable whole stampable
        simp [failed, stampable]

end

theorem stamp_of_isWhole (looksBack : Bool) {x : Float} {c : Nat} (h : IsWhole x c) :
    stamp looksBack x =
      if c < firstUnwritable then .ok (stampText c)
      else .error (.yearOutOfRange (dateOf c).year) := by
  have whole := floor_of_isWhole h
  have started : firstStampable looksBack ≤ c := by
    unfold firstStampable firstWritable
    split <;> omega
  by_cases early : c < firstUnwritable
  · rw [if_pos early, stamp_of_isStampable whole ⟨started, Int.ofNat_lt.mpr early⟩]
  · rw [if_neg early, stamp_of_unwritable whole fun within => early (Int.ofNat_lt.mp within.2)]

end Sidekick.Calendar
