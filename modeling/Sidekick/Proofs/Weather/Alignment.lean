import Sidekick.Proofs.Results
import Sidekick.Proofs.Weather.Document

namespace Sidekick.Weather
open Number Sidekick.Field Calendar

/-- No value that hours show comes after a null in its array. -/
structure HoursAligned (table : List Entry) : Prop where
  codes : NoneAfterGap (·.row.code) (fun _ => true) table
  highs : NoneAfterGap (·.row.high) (fun _ => true) table
  chances : NoneAfterGap (·.row.chance) (fun _ => true) table
  rains : NoneAfterGap (·.row.rain) (0 < ·) table

/-- Nor does a lowest temperature, as far as the null stands beside a highest one. -/
structure DaysAligned (table : List Entry) : Prop extends HoursAligned table where
  lows : NoneAfterCountingGap (·.row.high.isSome) (·.row.low) table

variable {table : List Entry}

/-! ## Rows of the columns -/

theorem of_getElem?_filterMap (value : Row → Option Float) {P : Float → Prop}
    (h : ∀ e ∈ table, ∀ x ∈ value e.row, P x) {i : Nat} :
    ∀ x ∈ (table.filterMap fun e => value e.row)[i]?, P x := by
  intro x hx
  obtain ⟨j, e, -, found, source⟩ := exists_of_getElem?_filterMap hx
  exact h e (List.mem_of_getElem? found) x source

theorem moderate_dayRow (valid : ∀ e ∈ table, e.Valid) (i : Nat) :
    ((dayColumns table).row i).Moderate where
  high := of_getElem?_filterMap Row.high fun e he => (valid e he).moderate.high
  low := of_getElem?_filterMap Row.low fun e he => (valid e he).moderate.low
  chance := of_getElem?_filterMap Row.chance fun e he => (valid e he).moderate.chance
  rain := of_getElem?_filterMap Row.rain fun e he => (valid e he).moderate.rain

theorem moderate_hourRow (valid : ∀ e ∈ table, e.Valid) (i : Nat) :
    ((hourColumns table).row i).Moderate :=
  { moderate_dayRow valid i with low := by intro x hx; cases hx }

theorem dayRow_single (e : Entry) : (dayColumns [e]).row 0 = e.row := by
  have single {β : Type} (value : Entry → Option β) :
      ([e].filterMap value)[0]? = value e := by
    cases h : value e <;> simp [h]
  simp only [dayColumns, Columns.row, single]

theorem hourShown_hourRow (i : Nat) :
    ((hourColumns table).row i).hourShown = ((dayColumns table).row i).hourShown := rfl

theorem filter_true {α : Type} (o : Option α) : o.filter (fun _ => true) = o := by
  cases o <;> rfl

theorem hourShown_of_aligned (h : HoursAligned table) {i : Nat} {e : Entry}
    (found : table[i]? = some e) :
    ((dayColumns table).row i).hourShown = e.row.hourShown := by
  have code := shown_of_noneAfterGap h.codes found
  have high := shown_of_noneAfterGap h.highs found
  have chance := shown_of_noneAfterGap h.chances found
  have rain := shown_of_noneAfterGap h.rains found
  rw [filter_true, filter_true] at code high chance
  simp only [Row.hourShown, Row.description, Columns.row, dayColumns, code, high, chance, rain]

theorem high_first (h : HoursAligned table) :
    table.Pairwise fun a b => b.row.high.isSome = true → a.row.high.isSome = true := by
  apply List.Pairwise.imp _ h.highs
  intro a b gap present
  cases high : a.row.high with
  | some x => rfl
  | none =>
      have absent : b.row.high = none := by
        rw [← filter_true b.row.high]
        exact gap high
      rw [absent] at present
      cases present

theorem dayShown_of_aligned (h : DaysAligned table) {i : Nat} {e : Entry}
    (found : table[i]? = some e) :
    ((dayColumns table).row i).dayShown = e.row.dayShown := by
  have hour := hourShown_of_aligned h.toHoursAligned found
  have high := shown_of_noneAfterGap h.highs found
  rw [filter_true, filter_true] at high
  have temperature : ((dayColumns table).row i).dayShown.temperature =
      e.row.dayShown.temperature := by
    simp only [Row.dayShown, Columns.row, dayColumns, high]
    cases present : e.row.high with
    | none => rfl
    | some x =>
        have counted : e.row.high.isSome = true := by rw [present]; rfl
        have first := high_first h.toHoursAligned
        have low := present_of_noneAfterCountingGap first h.lows found counted
        rw [low]
  rw [Row.dayShown, Row.dayShown, hour]
  exact congrArg (fun t => { e.row.hourShown with temperature := t }) temperature

theorem hoursAligned_of_present (h : ∀ i e, table[i]? = some e →
    ((dayColumns table).row i).SamePresent e.row) : HoursAligned table where
  codes := noneAfterGap_of_shown fun i e found => by
    rw [filter_true, filter_true]
    exact (h i e found).code
  highs := noneAfterGap_of_shown fun i e found => by
    rw [filter_true, filter_true]
    exact (h i e found).high
  chances := noneAfterGap_of_shown fun i e found => by
    rw [filter_true, filter_true]
    exact (h i e found).chance
  rains := noneAfterGap_of_shown fun i e found => (h i e found).rain

theorem hourShown_iff_aligned (valid : ∀ e ∈ table, e.Valid) :
    (∀ i e, table[i]? = some e → ((hourColumns table).row i).hourShown = e.row.hourShown) ↔
      HoursAligned table := by
  constructor
  · intro same
    apply hoursAligned_of_present
    intro i e found
    have moderate := (valid e (List.mem_of_getElem? found)).moderate
    exact samePresent_of_hourShown (moderate_dayRow valid i) moderate (same i e found)
  · intro aligned i e found
    exact hourShown_of_aligned aligned found

theorem dayShown_iff_aligned (valid : ∀ e ∈ table, e.Valid) :
    (∀ i e, table[i]? = some e → ((dayColumns table).row i).dayShown = e.row.dayShown) ↔
      DaysAligned table := by
  constructor
  · intro same
    have present : ∀ i e, table[i]? = some e → ((dayColumns table).row i).SamePresent e.row ∧
        (e.row.high.isSome = true → ((dayColumns table).row i).low.isSome = e.row.low.isSome) := by
      intro i e found
      have moderate := (valid e (List.mem_of_getElem? found)).moderate
      exact samePresent_of_dayShown (moderate_dayRow valid i) moderate (same i e found)
    have hours := hoursAligned_of_present fun i e found => (present i e found).1
    have lows := noneAfterCountingGap_of_present (high_first hours)
      fun i e found => (present i e found).2
    exact { toHoursAligned := hours, lows := lows }
  · intro aligned i e found
    exact dayShown_of_aligned aligned found

/-! ## Lines of the days -/

def dayText (date : String) (r : Row) : String :=
  "• " ++ weekdayText date ++ " " ++ date ++ " " ++ r.dayShown.text

theorem dailyLines_eq_ok {forecast : List Char} (held : HoldsTable forecast dayFields table)
    (valid : ∀ e ∈ table, e.Valid) : dailyLines forecast =
      .ok (table.zipIdx.map fun (e, i) => dayText e.timeText ((dayColumns table).row i)) := by
  obtain ⟨object, found, columns⟩ := held
  have line : ∀ pair : String × Nat, dayLine pair.1 ((dayColumns table).row pair.2) =
      .ok (dayText pair.1 ((dayColumns table).row pair.2)) :=
    fun pair => dayLine_eq_ok (moderate_dayRow valid pair.2) pair.1
  have name : "daily".toList = dayFields.name.toList := rfl
  simp only [dailyLines, name, object?_eq_some found, dailyColumns_eq_ok columns valid, bind,
    Except.bind]
  refine (mapM_ok line _).trans ?_
  simp [dayColumns, List.zipIdx_map]

theorem dayText_inj {date : String} {r s : Row} (hr : r.Moderate) (hs : s.Moderate) :
    dayText date r = dayText date s ↔ r.dayShown = s.dayShown := by
  rw [dayText, dayText, String.append_right_inj,
    Shown.text_inj (tidy_dayShown hr) (tidy_dayShown hs)]

theorem dailyLines_single {cut : List Char} {e : Entry} (held : HoldsTable cut dayFields [e])
    (valid : e.Valid) : dailyLines cut = .ok [dayText e.timeText e.row] := by
  rw [dailyLines_eq_ok held fun d hd => List.mem_singleton.mp hd ▸ valid]
  simp [dayRow_single]

/-! ## Lines of the hours -/

def hourText (label : String) (r : Row) : String := "• " ++ label ++ ": " ++ r.hourShown.text

def foundSlots (times : List String) (localTime : Int) :
    List (String × Nat) → List (String × Nat) :=
  List.filterMap fun (label, hour) =>
    if hour ≤ hourOf localTime then none
    else (timeIndex? times (dateOf localTime) hour).map fun i => (label, i)

theorem slotLines_eq_ok {hours : Columns} (moderate : ∀ i, (hours.row i).Moderate)
    (localTime : Int) (parts : List (String × Nat)) : slotLines hours localTime parts =
      .ok ((foundSlots hours.times localTime parts).map fun (label, i) =>
        hourText label (hours.row i)) := by
  induction parts with
  | nil => rfl
  | cons part parts ih =>
      obtain ⟨label, hour⟩ := part
      by_cases past : hour ≤ hourOf localTime
      · rw [slotLines, if_pos past, ih, foundSlots, List.filterMap_cons_none (by simp [past])]
      · cases index : timeIndex? hours.times (dateOf localTime) hour with
        | none =>
            rw [slotLines, if_neg past, index, foundSlots,
              List.filterMap_cons_none (by simp [index])]
            exact ih
        | some i =>
            have line := slotLine_eq_ok (moderate i) label
            rw [slotLines, if_neg past, index, foundSlots,
              List.filterMap_cons_some (b := (label, i)) (by simp [past, index])]
            simp only [line, ih]
            rfl

theorem laterLines_eq_ok {forecast : List Char} (held : HoldsTable forecast hourFields table)
    (valid : ∀ e ∈ table, e.Valid) (localTime : Int) : laterLines forecast localTime =
      .ok ((foundSlots (table.map Entry.timeText) localTime slots).map fun (label, i) =>
        hourText label ((hourColumns table).row i)) := by
  obtain ⟨object, found, columns⟩ := held
  have name : "hourly".toList = hourFields.name.toList := rfl
  simp only [laterLines, name, object?_eq_some found, hourlyColumns_eq_ok columns valid, bind,
    Except.bind]
  exact slotLines_eq_ok (moderate_hourRow valid) localTime slots

theorem hourText_inj {label : String} {r s : Row} (hr : r.Moderate) (hs : s.Moderate) :
    hourText label r = hourText label s ↔ r.hourShown = s.hourShown := by
  rw [hourText, hourText, String.append_right_inj,
    Shown.text_inj (tidy_hourShown hr) (tidy_hourShown hs)]

def hourStamp (date : Date) (hour : Nat) : List Char :=
  (date.text ++ "T" ++ padded 2 hour).toList

theorem hourStamp_inj {date : Date} {hour hour' : Nat} {t : List Char} (h : hour ∈ [12, 18, 22])
    (h' : hour' ∈ [12, 18, 22]) (first : hourStamp date hour <+: t)
    (second : hourStamp date hour' <+: t) : hour = hour' := by
  have two : ∀ n ∈ [12, 18, 22], (padded 2 n).toList.length = 2 := by decide
  have distinct : ∀ n ∈ [12, 18, 22], ∀ m ∈ [12, 18, 22],
      (padded 2 n).toList = (padded 2 m).toList → n = m := by decide
  have lengths : (hourStamp date hour).length = (hourStamp date hour').length := by
    simp only [hourStamp, String.toList_append, List.length_append, two hour h, two hour' h']
  have same : hourStamp date hour = hourStamp date hour' := by
    rw [List.prefix_iff_eq_take.mp first, List.prefix_iff_eq_take.mp second, lengths]
  simp only [hourStamp, String.toList_append, List.append_cancel_left_eq] at same
  exact distinct hour h hour' h' same

theorem timeIndex?_single (t : String) (date : Date) (hour : Nat) :
    timeIndex? [t] date hour = if hourStamp date hour <+: t.toList then some 0 else none := by
  have search : timeIndex? [t] date hour =
      [t].findIdx? fun t => (hourStamp date hour).isPrefixOf t.toList := rfl
  rw [search, List.findIdx?_singleton]
  simp only [List.isPrefixOf_iff_prefix]

theorem begins_of_timeIndex? {times : List String} {date : Date} {hour i : Nat} {t : String}
    (h : timeIndex? times date hour = some i) (found : times[i]? = some t) :
    hourStamp date hour <+: t.toList := by
  obtain ⟨lt, begins, -⟩ := List.findIdx?_eq_some_iff_getElem.mp h
  obtain rfl : times[i] = t := Option.some.inj ((List.getElem?_eq_getElem lt).symm.trans found)
  exact List.isPrefixOf_iff_prefix.mp begins

theorem foundSlots_single {label : String} {hour : Nat} {localTime : Int} {t : String}
    (slot : (label, hour) ∈ slots) (ahead : ¬ hour ≤ hourOf localTime)
    (begins : hourStamp (dateOf localTime) hour <+: t.toList) :
    foundSlots [t] localTime slots = [(label, 0)] := by
  have own : timeIndex? [t] (dateOf localTime) hour = some 0 := by
    rw [timeIndex?_single, if_pos begins]
  have other : ∀ other ∈ [12, 18, 22], hour ∈ [12, 18, 22] → other ≠ hour →
      timeIndex? [t] (dateOf localTime) other = none := by
    intro other mem mem' ne
    rw [timeIndex?_single, if_neg fun begins' => ne (hourStamp_inj mem mem' begins' begins)]
  simp only [slots, List.mem_cons, Prod.mk.injEq, List.not_mem_nil, or_false] at slot
  rcases slot with ⟨rfl, rfl⟩ | ⟨rfl, rfl⟩ | ⟨rfl, rfl⟩
  · simp [foundSlots, slots, ahead, own, other 18, other 22]
  · simp [foundSlots, slots, ahead, own, other 12, other 22]
  · simp [foundSlots, slots, ahead, own, other 12, other 18]

theorem slot_of_mem_foundSlots {times : List String} {localTime : Int} {label : String} {i : Nat}
    (h : (label, i) ∈ foundSlots times localTime slots) : ∃ hour, (label, hour) ∈ slots ∧
      ¬ hour ≤ hourOf localTime ∧ timeIndex? times (dateOf localTime) hour = some i := by
  obtain ⟨⟨name, hour⟩, slot, found⟩ := List.mem_filterMap.mp h
  by_cases past : hour ≤ hourOf localTime
  · simp [past] at found
  · simp only [if_neg past] at found
    obtain ⟨j, index, eq⟩ := Option.map_eq_some_iff.mp found
    obtain ⟨rfl, rfl⟩ := Prod.mk.inj eq
    exact ⟨hour, slot, past, index⟩

theorem laterLines_single {cut : List Char} {e : Entry} (held : HoldsTable cut hourFields [e])
    (valid : e.Valid) {localTime : Int} {label : String} {i : Nat}
    (slot : (label, i) ∈ foundSlots (table.map Entry.timeText) localTime slots)
    (found : table[i]? = some e) : laterLines cut localTime = .ok [hourText label e.row] := by
  obtain ⟨hour, named, ahead, index⟩ := slot_of_mem_foundSlots slot
  have time : (table.map Entry.timeText)[i]? = some e.timeText := by
    rw [List.getElem?_map, found, Option.map_some]
  have begins := begins_of_timeIndex? index time
  rw [laterLines_eq_ok held fun d hd => List.mem_singleton.mp hd ▸ valid, List.map_singleton,
    foundSlots_single named ahead begins, List.map_singleton]
  simp only [hourText, hourShown_hourRow, dayRow_single]

/-! ## Lines that keep their entry -/

/-- The day at an index has the line that it has in every forecast cut down to its entry. -/
def DayKept (table : List Entry) (lines : List String) (i : Nat) : Prop :=
  ∀ e cut, table[i]? = some e → HoldsTable cut dayFields [e] →
    dailyLines cut = .ok lines[i]?.toList

def SlotKept (table : List Entry) (localTime : Int) (lines : List String) (k i : Nat) : Prop :=
  ∀ e cut, table[i]? = some e → HoldsTable cut hourFields [e] →
    laterLines cut localTime = .ok lines[k]?.toList

theorem holdsTable_single {fields : Fields} (proper : fields.Proper) {e : Entry} (valid : e.Valid) :
    HoldsTable (tableText fields [e]) fields [e] :=
  holdsTable_tableText proper fun _ hd => List.mem_singleton.mp hd ▸ valid

theorem ok_singleton_inj {a b : String} :
    (Except.ok [a] : Except Fault (List String)) = .ok (some b).toList ↔ b = a := by
  constructor
  · intro h
    cases h
    rfl
  · rintro rfl
    rfl

theorem dayKept_iff (valid : ∀ e ∈ table, e.Valid) {i : Nat} {e : Entry}
    (found : table[i]? = some e) :
    DayKept table (table.zipIdx.map fun (e, i) => dayText e.timeText ((dayColumns table).row i)) i ↔
      ((dayColumns table).row i).dayShown = e.row.dayShown := by
  have validEntry := valid e (List.mem_of_getElem? found)
  have line : (table.zipIdx.map fun (e, i) => dayText e.timeText ((dayColumns table).row i))[i]? =
      some (dayText e.timeText ((dayColumns table).row i)) := by
    simp [List.getElem?_zipIdx, found]
  rw [← dayText_inj (moderate_dayRow valid i) validEntry.moderate]
  constructor
  · intro kept
    have alone := holdsTable_single proper_dayFields validEntry
    have same := kept e _ found alone
    rwa [dailyLines_single alone validEntry, line, ok_singleton_inj] at same
  · intro same e' cut found' alone
    obtain rfl : e = e' := Option.some.inj (found.symm.trans found')
    rw [dailyLines_single alone validEntry, line, ok_singleton_inj]
    exact same

theorem slotKept_iff (valid : ∀ e ∈ table, e.Valid) {localTime : Int} {k : Nat} {label : String}
    {i : Nat} {e : Entry}
    (slot : (foundSlots (table.map Entry.timeText) localTime slots)[k]? = some (label, i))
    (found : table[i]? = some e) :
    SlotKept table localTime ((foundSlots (table.map Entry.timeText) localTime slots).map
        fun (label, i) => hourText label ((hourColumns table).row i)) k i ↔
      ((hourColumns table).row i).hourShown = e.row.hourShown := by
  have validEntry := valid e (List.mem_of_getElem? found)
  have single {cut : List Char} (alone : HoldsTable cut hourFields [e]) :=
    laterLines_single alone validEntry (List.mem_of_getElem? slot) found
  have line : ((foundSlots (table.map Entry.timeText) localTime slots).map
      fun (label, i) => hourText label ((hourColumns table).row i))[k]? =
      some (hourText label ((hourColumns table).row i)) := by
    rw [List.getElem?_map, slot, Option.map_some]
  rw [← hourText_inj (moderate_hourRow valid i) validEntry.moderate]
  constructor
  · intro kept
    have alone := holdsTable_single proper_hourFields validEntry
    have same := kept e _ found alone
    rwa [single alone, line, ok_singleton_inj] at same
  · intro same e' cut found' alone
    obtain rfl : e = e' := Option.some.inj (found.symm.trans found')
    rw [single alone, line, ok_singleton_inj]
    exact same

theorem lines_kept_iff {forecast : List Char} (valid : ∀ e ∈ table, e.Valid) :
    (HoldsTable forecast dayFields table →
      ∃ lines, dailyLines forecast = .ok lines ∧ lines.length = table.length ∧
        (∀ (i : Nat) e, table[i]? = some e →
          (DayKept table lines i ↔ ((dayColumns table).row i).dayShown = e.row.dayShown)) ∧
        ((∀ i, DayKept table lines i) ↔ DaysAligned table)) ∧
    (HoldsTable forecast hourFields table → ∀ localTime,
      ∃ lines, laterLines forecast localTime = .ok lines ∧
        lines.length = (foundSlots (table.map Entry.timeText) localTime slots).length ∧
        (∀ (k : Nat) label (i : Nat) e,
          (foundSlots (table.map Entry.timeText) localTime slots)[k]? = some (label, i) →
          table[i]? = some e →
          (SlotKept table localTime lines k i ↔
            ((hourColumns table).row i).hourShown = e.row.hourShown)) ∧
        ((∀ (i : Nat) e, table[i]? = some e →
          ((hourColumns table).row i).hourShown = e.row.hourShown) ↔ HoursAligned table)) := by
  constructor
  · intro held
    refine ⟨_, dailyLines_eq_ok held valid, by simp, fun i e found => dayKept_iff valid found, ?_⟩
    rw [← dayShown_iff_aligned valid]
    constructor
    · intro kept i e found
      exact (dayKept_iff valid found).mp (kept i)
    · intro same i e cut found alone
      exact (dayKept_iff valid found).mpr (same i e found) e cut found alone
  · intro held localTime
    exact ⟨_, laterLines_eq_ok held valid localTime, by simp,
      fun k label i e slot found => slotKept_iff valid slot found, hourShown_iff_aligned valid⟩

/-! ## Two entries with a null -/

def twoEntries (time time' : List Encoded) (high high' : List Char) : List Entry :=
  [⟨time, high, "4.0".toList, "80".toList, "1.2".toList, "61".toList⟩,
    ⟨time', high', "5.25".toList, "15".toList, "0.0".toList, "3".toList⟩]

def twoDays : List Char → List Char → List Entry :=
  twoEntries (literals "2025-11-11".toList (by decide)) (literals "2025-11-12".toList (by decide))

def twoHours : List Char → List Char → List Entry :=
  twoEntries (literals "2025-11-11T18:00".toList (by decide +kernel))
    (literals "2025-11-11T22:00".toList (by decide +kernel))

theorem valid_twoEntries {time time' : List Encoded} {high high' : List Char}
    (first : ∀ c ∈ encodedText time, c ∉ ['[', ']', '\x7b', '\x7d'])
    (second : ∀ c ∈ encodedText time', c ∉ ['[', ']', '\x7b', '\x7d'])
    (hh : high ∈ [nullText, "11.0".toList]) (hh' : high' ∈ [nullText, "11.0".toList]) :
    ∀ e ∈ twoEntries time time' high high', e.Valid := by
  have highs : ∀ t ∈ [nullText, "11.0".toList], IsModerateCell t := by decide +kernel
  have others : ∀ t ∈ ["4.0".toList, "80".toList, "1.2".toList, "5.25".toList, "15".toList,
      "0.0".toList], IsModerateCell t := by decide +kernel
  have codes : ∀ t ∈ ["61".toList, "3".toList], IsIntegerCell t := by
    intro t ht
    have plain : ∀ t ∈ ["61".toList, "3".toList],
        AllDigits t ∧ t ≠ [] ∧ t.length ≤ maxDigits := by
      unfold AllDigits
      decide
    exact .inr ⟨[], t, .none, (plain t ht).1, (plain t ht).2.1, (plain t ht).2.2, rfl⟩
  intro e he
  simp only [twoEntries, List.mem_cons, List.not_mem_nil, or_false] at he
  rcases he with rfl | rfl
  · exact ⟨first, highs _ hh, others "4.0".toList (by decide), others "80".toList (by decide),
      others "1.2".toList (by decide), codes "61".toList (by decide)⟩
  · exact ⟨second, highs _ hh', others "5.25".toList (by decide), others "15".toList (by decide),
      others "0.0".toList (by decide), codes "3".toList (by decide)⟩

theorem valid_twoDays {high high' : List Char} (hh : high ∈ [nullText, "11.0".toList])
    (hh' : high' ∈ [nullText, "11.0".toList]) : ∀ e ∈ twoDays high high', e.Valid :=
  valid_twoEntries (by decide +kernel) (by decide +kernel) hh hh'

theorem valid_twoHours {high high' : List Char} (hh : high ∈ [nullText, "11.0".toList])
    (hh' : high' ∈ [nullText, "11.0".toList]) : ∀ e ∈ twoHours high high', e.Valid :=
  valid_twoEntries (by decide +kernel) (by decide +kernel) hh hh'

theorem daysAligned_twoDays : DaysAligned (twoDays "11.0".toList nullText) where
  codes := by decide +kernel
  highs := by decide +kernel
  chances := by decide +kernel
  rains := by decide +kernel
  lows := by decide +kernel

theorem hoursAligned_twoHours : HoursAligned (twoHours "11.0".toList nullText) where
  codes := by decide +kernel
  highs := by decide +kernel
  chances := by decide +kernel
  rains := by decide +kernel

theorem lines_kept_twoEntries :
    (∃ lines, dailyLines (tableText dayFields (twoDays "11.0".toList nullText)) = .ok lines ∧
      ∀ i, DayKept (twoDays "11.0".toList nullText) lines i) ∧
    ∃ lines, laterLines (tableText hourFields (twoHours "11.0".toList nullText)) 1762855200 =
        .ok lines ∧
      SlotKept (twoHours "11.0".toList nullText) 1762855200 lines 0 0 ∧
      SlotKept (twoHours "11.0".toList nullText) 1762855200 lines 1 1 := by
  have highs : "11.0".toList ∈ [nullText, "11.0".toList] := by decide
  have nulls : nullText ∈ [nullText, "11.0".toList] := by decide
  have validDays := valid_twoDays highs nulls
  have validHours := valid_twoHours highs nulls
  have found : foundSlots ((twoHours "11.0".toList nullText).map Entry.timeText) 1762855200 slots =
      [("Evening", 0), ("Night", 1)] := by decide +kernel
  constructor
  · obtain ⟨lines, ok, -, -, all⟩ := (lines_kept_iff validDays).1
      (holdsTable_tableText proper_dayFields validDays)
    exact ⟨lines, ok, all.mpr daysAligned_twoDays⟩
  · obtain ⟨lines, ok, -, each, all⟩ := (lines_kept_iff validHours).2
      (holdsTable_tableText proper_hourFields validHours) 1762855200
    have same := all.mpr hoursAligned_twoHours
    rw [found] at each
    exact ⟨lines, ok, (each 0 _ 0 _ rfl rfl).mpr (same 0 _ rfl),
      (each 1 _ 1 _ rfl rfl).mpr (same 1 _ rfl)⟩

theorem not_dayKept_null_first :
    (∀ e ∈ twoDays nullText "11.0".toList, e.Valid) ∧
    HoldsTable (tableText dayFields (twoDays nullText "11.0".toList)) dayFields
      (twoDays nullText "11.0".toList) ∧
    ∃ lines, dailyLines (tableText dayFields (twoDays nullText "11.0".toList)) = .ok lines ∧
      ¬ DayKept (twoDays nullText "11.0".toList) lines 0 := by
  have highs : "11.0".toList ∈ [nullText, "11.0".toList] := by decide
  have nulls : nullText ∈ [nullText, "11.0".toList] := by decide
  have valid := valid_twoDays nulls highs
  have held := holdsTable_tableText proper_dayFields valid
  refine ⟨valid, held, _, dailyLines_eq_ok held valid, ?_⟩
  intro kept
  have same := (dayKept_iff valid (i := 0) rfl).mp kept
  have moderate := (valid _ List.mem_cons_self).moderate
  have present := (samePresent_of_dayShown (moderate_dayRow valid 0) moderate same).1.high
  exact absurd present (by decide +kernel)

end Sidekick.Weather
