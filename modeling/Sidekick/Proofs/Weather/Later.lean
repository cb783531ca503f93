import Mathlib.Data.List.Forall2
import Sidekick.Proofs.Calendar.Stamps
import Sidekick.Proofs.Weather.Alignment

namespace Sidekick.Weather
open Number Calendar

def laterHeading : String := "🕒 *Later today*"

def slotStart (label : String) : String := "• " ++ label ++ ": "

def isSlotLine (line : String) : Bool :=
  slots.any fun slot => (slotStart slot.1).toList.isPrefixOf line.toList

def reportLines (name : String) (current : Option String) (later daily : List String) :
    List String :=
  ["🌤️ *Weather for " ++ name ++ "*"] ++ current.toList
    ++ (if later.isEmpty then [] else ["", laterHeading] ++ later)
    ++ ["", "📅 *" ++ toString forecastDays ++ "-day forecast*"] ++ daily
    ++ ["", "_Source: Open-Meteo — https://open-meteo.com_"]

/-- An hour of the local date has a time, and begins after the local time. -/
structure IsAhead (stamps : List LocalStamp) (localTime : Int) (hour : Nat) : Prop where
  listed : ∃ stamp ∈ stamps, stamp.date = dateOf localTime ∧ stamp.hour = hour
  upcoming : localTime < 86400 * (dateOf localTime).toDays + 3600 * hour

instance (stamps : List LocalStamp) (localTime : Int) (hour : Nat) :
    Decidable (IsAhead stamps localTime hour) :=
  decidable_of_iff ((∃ stamp ∈ stamps, stamp.date = dateOf localTime ∧ stamp.hour = hour) ∧
    localTime < 86400 * (dateOf localTime).toDays + 3600 * hour)
    ⟨fun ⟨h₁, h₂⟩ => ⟨h₁, h₂⟩, fun ⟨h₁, h₂⟩ => ⟨h₁, h₂⟩⟩

/-- The line of a part of the day, with the row at an index where a time of the local date and of
its hour stands. -/
structure Tells (stamps : List LocalStamp) (localTime : Int) (hours : Columns) (line : String)
    (slot : String × Nat) : Prop where
  starts : (slotStart slot.1).toList <+: line.toList
  row : ∃ i stamp, stamps[i]? = some stamp ∧ stamp.date = dateOf localTime ∧ stamp.hour = slot.2 ∧
    slotLine slot.1 (hours.row i) = .ok line

variable {stamps : List LocalStamp} {localTime : Int} {hours : Columns} {lines : List String}

/-! ## Lines of the parts of today -/

section

variable {hour : Nat} (year : 0 ≤ (dateOf localTime).year) (fits : Fits (dateOf localTime) hour)

include year fits

theorem isSome_timeIndex?_iff :
    (timeIndex? (stamps.map LocalStamp.text) (dateOf localTime) hour).isSome = true ↔
      ∃ stamp ∈ stamps, stamp.date = dateOf localTime ∧ stamp.hour = hour := by
  have search : timeIndex? (stamps.map LocalStamp.text) (dateOf localTime) hour =
      (stamps.map LocalStamp.text).findIdx? fun t =>
        (hourPrefix (dateOf localTime) hour).isPrefixOf t.toList := rfl
  rw [search, List.findIdx?_isSome, List.any_map, List.any_eq_true]
  refine exists_congr fun stamp => and_congr_right fun _ => ?_
  rw [Function.comp_apply, List.isPrefixOf_iff_prefix, stamp.begins_iff year fits]

theorem exists_of_timeIndex? {i : Nat}
    (h : timeIndex? (stamps.map LocalStamp.text) (dateOf localTime) hour = some i) :
    ∃ stamp, stamps[i]? = some stamp ∧ stamp.date = dateOf localTime ∧ stamp.hour = hour := by
  obtain ⟨lt, -, -⟩ := List.findIdx?_eq_some_iff_getElem.mp h
  rw [List.length_map] at lt
  have found : stamps[i]? = some stamps[i] := List.getElem?_eq_getElem lt
  refine ⟨stamps[i], found, (LocalStamp.begins_iff _ year fits).mp ?_⟩
  exact begins_of_timeIndex? h (by rw [List.getElem?_map, found]; rfl)

end

theorem starts_of_slotLine {label line : String} {r : Row} (h : slotLine label r = .ok line) :
    (slotStart label).toList <+: line.toList := by
  obtain ⟨parts, -, h⟩ := exists_of_bind_eq_ok h
  obtain ⟨more, -, h⟩ := exists_of_bind_eq_ok h
  obtain ⟨rest, -, h⟩ := exists_of_bind_eq_ok h
  cases h
  rw [String.append_assoc, String.append_assoc, String.toList_append]
  exact List.prefix_append _ _

theorem tells_of_slotLines {ss : List (String × Nat)}
    (writable : isWritableYear (dateOf localTime).year = true)
    (small : ∀ slot ∈ ss, slot.2 < 10 ^ 2) (times : hours.times = stamps.map LocalStamp.text)
    (h : slotLines hours localTime ss = .ok lines) : List.Forall₂ (Tells stamps localTime hours)
      lines (ss.filter fun slot => IsAhead stamps localTime slot.2) := by
  induction ss generalizing lines with
  | nil =>
      cases h
      exact .nil
  | cons slot ss ih =>
      obtain ⟨label, hour⟩ := slot
      obtain ⟨first, small⟩ := List.forall_mem_cons.mp small
      obtain ⟨year, fits⟩ := fits_dateOf writable first
      have listed := @isSome_timeIndex?_iff stamps _ _ year fits
      have upcoming := lt_hour_iff localTime hour
      rw [slotLines] at h
      -- A part is left out if its hour has begun, and else if no time is found for it.
      by_cases past : hour ≤ hourOf localTime
      · rw [if_pos past] at h
        rw [List.filter_cons_of_neg]
        · exact ih small h
        · rw [decide_eq_true_eq]
          exact fun ahead => Nat.not_lt_of_le past (upcoming.mp ahead.upcoming)
      · rw [if_neg past, times] at h
        cases index : timeIndex? (stamps.map LocalStamp.text) (dateOf localTime) hour with
        | none =>
            rw [index] at h
            rw [List.filter_cons_of_neg]
            · exact ih small h
            · rw [decide_eq_true_eq]
              intro ahead
              have some := listed.mpr ahead.listed
              rw [index] at some
              cases some
        | some i =>
            rw [index] at h
            obtain ⟨line, shown, h⟩ := exists_of_bind_eq_ok h
            obtain ⟨rest, later, h⟩ := exists_of_bind_eq_ok h
            cases h
            obtain ⟨stamp, found, date, same⟩ := exists_of_timeIndex? year fits index
            rw [List.filter_cons_of_pos]
            · exact .cons ⟨starts_of_slotLine shown, i, stamp, found, date, same, shown⟩
                (ih small later)
            · rw [decide_eq_true_eq]
              exact ⟨listed.mp (by rw [index]; rfl), upcoming.mpr (Nat.lt_of_not_le past)⟩

/-! ## Other lines -/

def laterStarts : List String := laterHeading :: slots.map fun slot => slotStart slot.1

def IsApart (line : String) : Prop := ∀ start ∈ laterStarts, ¬ start.toList <+: line.toList

instance (line : String) : Decidable (IsApart line) :=
  inferInstanceAs (Decidable (∀ start ∈ laterStarts, ¬ start.toList <+: line.toList))

theorem isApart_of_begins {front line : String} (begins : front.toList <+: line.toList)
    (apart : ∀ start ∈ laterStarts,
      ¬ front.toList <+: start.toList ∧ ¬ start.toList <+: front.toList) : IsApart line := by
  intro start mem starts
  obtain ⟨short, long⟩ := apart start mem
  exact (List.prefix_or_prefix_of_prefix begins starts).elim short long

theorem IsApart.not_isSlotLine {line : String} (h : IsApart line) : ¬ isSlotLine line = true := by
  intro slotLine
  obtain ⟨slot, mem, starts⟩ := List.any_eq_true.mp slotLine
  exact h _ (List.mem_cons_of_mem _ (List.mem_map_of_mem mem))
    (List.isPrefixOf_iff_prefix.mp starts)

theorem IsApart.ne_laterHeading {line : String} (h : IsApart line) : line ≠ laterHeading := by
  rintro rfl
  exact h _ List.mem_cons_self (List.prefix_refl _)

theorem prefix_toList_append (a b : String) : a.toList <+: (a ++ b).toList := by
  rw [String.toList_append]
  exact List.prefix_append _ _

theorem isApart_title (name : String) : IsApart ("🌤️ *Weather for " ++ name ++ "*") := by
  rw [String.append_assoc]
  exact isApart_of_begins (prefix_toList_append _ _) (by decide +kernel)

theorem prefix_joinParts (first : String) (parts : List String) :
    first.toList <+: (joinParts (first :: parts)).toList := by
  rw [doubleSpaced_toList, List.map_cons]
  cases parts with
  | nil => simp only [List.map_nil, Text.doubleSpaced_singleton, List.prefix_refl]
  | cons next parts =>
      rw [List.map_cons, Text.doubleSpaced_cons_cons]
      exact List.prefix_append _ _

theorem isApart_now (temperature : String) (parts : List String) (description : String) :
    IsApart ("• " ++ joinParts (("Now: " ++ temperature ++ "°C") :: parts) ++ description) := by
  have apart : ∀ start ∈ laterStarts, ¬ ("• " ++ "Now: ").toList <+: start.toList ∧
      ¬ start.toList <+: ("• " ++ "Now: ").toList := by
    decide +kernel
  refine isApart_of_begins ?_ apart
  have first := prefix_joinParts ("Now: " ++ temperature ++ "°C") parts
  rw [String.append_assoc, String.toList_append, String.toList_append, String.toList_append,
    List.prefix_append_right_inj]
  rw [String.append_assoc] at first
  exact ((prefix_toList_append _ _).trans first).trans (List.prefix_append _ _)

theorem isApart_of_currentLine {forecast : List Char} {current : Option String}
    (h : currentLine forecast = .ok current) : ∀ line ∈ current.toList, IsApart line := by
  unfold currentLine at h
  split at h
  · cases h
    exact fun _ hl => nomatch hl
  · split at h
    · cases h
      exact fun _ hl => nomatch hl
    · obtain ⟨temperature, -, h⟩ := exists_of_bind_eq_ok h
      obtain ⟨feels, -, h⟩ := exists_of_bind_eq_ok h
      obtain ⟨humidity, -, h⟩ := exists_of_bind_eq_ok h
      obtain ⟨wind, -, h⟩ := exists_of_bind_eq_ok h
      obtain ⟨rain, -, h⟩ := exists_of_bind_eq_ok h
      dsimp only at h
      split at h
      · cases h
        exact List.forall_mem_singleton.mpr (isApart_now _ _ _)
      · obtain ⟨code, -, h⟩ := exists_of_bind_eq_ok h
        cases h
        exact List.forall_mem_singleton.mpr (isApart_now _ _ _)

theorem isApart_of_dayLine {date line : String} {r : Row} (h : dayLine date r = .ok line) :
    IsApart line := by
  have apart : ∀ name ∈ ["Mon", "Tue", "Wed", "Thu", "Fri", "Sat", "Sun", "Day"],
      ∀ start ∈ laterStarts,
        ¬ ("• " ++ name).toList <+: start.toList ∧ ¬ start.toList <+: ("• " ++ name).toList := by
    decide +kernel
  have named : weekdayText date ∈ ["Mon", "Tue", "Wed", "Thu", "Fri", "Sat", "Sun", "Day"] := by
    unfold weekdayText weekdayName
    split
    · split <;> decide
    · decide
  obtain ⟨temperature, -, h⟩ := exists_of_bind_eq_ok h
  obtain ⟨chance, -, h⟩ := exists_of_bind_eq_ok h
  obtain ⟨rain, -, h⟩ := exists_of_bind_eq_ok h
  cases h
  refine isApart_of_begins ?_ (apart _ named)
  simp only [String.toList_append, List.append_assoc, List.prefix_append_right_inj]
  exact List.prefix_append _ _

theorem isApart_of_dailyLines {forecast : List Char} {daily : List String}
    (h : dailyLines forecast = .ok daily) : ∀ line ∈ daily, IsApart line := by
  unfold dailyLines at h
  split at h
  · cases h
    exact fun _ hl => nomatch hl
  · obtain ⟨days, -, h⟩ := exists_of_bind_eq_ok h
    intro line mem
    obtain ⟨entry, shown⟩ := mem_of_mapM_ok h line mem
    exact isApart_of_dayLine shown

/-! ## Whole reports -/

structure LaterToday (stamps : List LocalStamp) (localTime : Int) (hours : Columns)
    (lines later : List String) : Prop where
  told : List.Forall₂ (Tells stamps localTime hours) later
    (slots.filter fun slot => IsAhead stamps localTime slot.2)
  only : lines.filter isSlotLine = later
  section_iff : laterHeading ∈ lines ↔ ∃ line ∈ lines, isSlotLine line = true
  line_iff : ∀ slot ∈ slots, (∃ line ∈ lines, (slotStart slot.1).toList <+: line.toList) ↔
    IsAhead stamps localTime slot.2

theorem exists_of_mem_left {α β : Type} {R : α → β → Prop} {xs : List α} {ys : List β}
    (h : List.Forall₂ R xs ys) : ∀ x ∈ xs, ∃ y ∈ ys, R x y := by
  induction h with
  | nil => exact fun _ hx => nomatch hx
  | cons related _ ih =>
      refine List.forall_mem_cons.mpr ⟨⟨_, List.mem_cons_self, related⟩, fun x mem => ?_⟩
      obtain ⟨y, found, related⟩ := ih x mem
      exact ⟨y, List.mem_cons_of_mem _ found, related⟩

theorem exists_of_mem_right {α β : Type} {R : α → β → Prop} {xs : List α} {ys : List β}
    (h : List.Forall₂ R xs ys) : ∀ y ∈ ys, ∃ x ∈ xs, R x y :=
  exists_of_mem_left (R := fun y x => R x y) h.flip

section

variable {name : String} {current : Option String} {later daily : List String}

theorem exists_around (apartCurrent : ∀ line ∈ current.toList, IsApart line)
    (apartDaily : ∀ line ∈ daily, IsApart line) :
    ∃ front back, (∀ line ∈ front, IsApart line) ∧ (∀ line ∈ back, IsApart line) ∧
      reportLines name current later daily =
        front ++ (if later.isEmpty then [] else ["", laterHeading] ++ later) ++ back := by
  refine ⟨["🌤️ *Weather for " ++ name ++ "*"] ++ current.toList,
    ["", "📅 *" ++ toString forecastDays ++ "-day forecast*"] ++
      (daily ++ ["", "_Source: Open-Meteo — https://open-meteo.com_"]), ?_, ?_,
    by simp only [reportLines, List.append_assoc]⟩
  · exact List.forall_mem_append.mpr
      ⟨List.forall_mem_singleton.mpr (isApart_title name), apartCurrent⟩
  · exact List.forall_mem_append.mpr
      ⟨by decide +kernel, List.forall_mem_append.mpr ⟨apartDaily, by decide +kernel⟩⟩

theorem filter_reportLines (name : String) (apartCurrent : ∀ line ∈ current.toList, IsApart line)
    (apartDaily : ∀ line ∈ daily, IsApart line)
    (slotLines : ∀ line ∈ later, isSlotLine line = true) :
    (reportLines name current later daily).filter isSlotLine = later := by
  have none_of {lines : List String} (apart : ∀ line ∈ lines, IsApart line) :
      lines.filter isSlotLine = [] :=
    List.filter_eq_nil_iff.mpr fun line mem => (apart line mem).not_isSlotLine
  obtain ⟨front, back, apartFront, apartBack, lines⟩ := exists_around apartCurrent apartDaily
  rw [lines, List.filter_append, List.filter_append, none_of apartFront, none_of apartBack,
    List.nil_append, List.append_nil]
  cases later with
  | nil => rfl
  | cons line later =>
      have heading : ["", laterHeading].filter isSlotLine = [] := by decide +kernel
      rw [List.isEmpty_cons, if_neg Bool.false_ne_true, List.filter_append, heading,
        List.filter_eq_self.mpr slotLines, List.nil_append]

theorem laterHeading_mem_reportLines (name : String)
    (apartCurrent : ∀ line ∈ current.toList, IsApart line)
    (apartDaily : ∀ line ∈ daily, IsApart line) :
    laterHeading ∈ reportLines name current later daily ↔ later ≠ [] := by
  have absent {lines : List String} (apart : ∀ line ∈ lines, IsApart line) :
      laterHeading ∉ lines := fun mem => (apart _ mem).ne_laterHeading rfl
  obtain ⟨front, back, apartFront, apartBack, lines⟩ := exists_around apartCurrent apartDaily
  rw [lines, List.mem_append, List.mem_append, or_iff_left (absent apartBack),
    or_iff_right (absent apartFront)]
  cases later with
  | nil => simp
  | cons line later => simp

theorem laterToday_reportLines (apartCurrent : ∀ line ∈ current.toList, IsApart line)
    (apartDaily : ∀ line ∈ daily, IsApart line)
    (told : List.Forall₂ (Tells stamps localTime hours) later
      (slots.filter fun slot => IsAhead stamps localTime slot.2)) :
    LaterToday stamps localTime hours (reportLines name current later daily) later := by
  have slotLines : ∀ line ∈ later, isSlotLine line = true := by
    intro line mem
    obtain ⟨slot, ahead, tells⟩ := exists_of_mem_left told line mem
    exact List.any_eq_true.mpr
      ⟨slot, List.mem_of_mem_filter ahead, List.isPrefixOf_iff_prefix.mpr tells.starts⟩
  have only := filter_reportLines name apartCurrent apartDaily slotLines
  have mem_later (line : String) : line ∈ later ↔
      line ∈ reportLines name current later daily ∧ isSlotLine line = true := by
    rw [← List.mem_filter, only]
  have unmixed : ∀ slot ∈ slots, ∀ other ∈ slots,
      (slotStart slot.1).toList <+: (slotStart other.1).toList → slot = other := by
    decide +kernel
  refine ⟨told, only, ?_, fun slot mem => ⟨?_, fun ahead => ?_⟩⟩
  · rw [laterHeading_mem_reportLines name apartCurrent apartDaily]
    constructor
    · intro nonempty
      obtain ⟨line, mem⟩ := List.exists_mem_of_ne_nil _ nonempty
      exact ⟨line, (mem_later line).mp mem⟩
    · rintro ⟨line, shown⟩
      exact List.ne_nil_of_mem ((mem_later line).mpr shown)
  · rintro ⟨line, shown, starts⟩
    have slotLine : isSlotLine line = true :=
      List.any_eq_true.mpr ⟨slot, mem, List.isPrefixOf_iff_prefix.mpr starts⟩
    obtain ⟨other, ahead, tells⟩ :=
      exists_of_mem_left told line ((mem_later line).mpr ⟨shown, slotLine⟩)
    obtain ⟨listed, ahead⟩ := List.mem_filter.mp ahead
    have same : slot = other := by
      rcases List.prefix_or_prefix_of_prefix starts tells.starts with short | long
      · exact unmixed slot mem other listed short
      · exact (unmixed other listed slot mem long).symm
    rw [same]
    exact of_decide_eq_true ahead
  · obtain ⟨line, shown, tells⟩ := exists_of_mem_right told slot
      (List.mem_filter.mpr ⟨mem, decide_eq_true ahead⟩)
    exact ⟨line, ((mem_later line).mp shown).1, tells.starts⟩

end

theorem tells_of_laterLines {forecast hourly : List Char} {later : List String}
    (writable : isWritableYear (dateOf localTime).year = true)
    (object : Field.object? forecast "hourly".toList = some hourly)
    (listed : times hourly = .ok (stamps.map LocalStamp.text))
    (h : laterLines forecast localTime = .ok later) :
    ∃ hours, hourlyColumns hourly = .ok hours ∧
      List.Forall₂ (Tells stamps localTime hours) later
        (slots.filter fun slot => IsAhead stamps localTime slot.2) := by
  rw [laterLines, object] at h
  obtain ⟨hours, columns, h⟩ := exists_of_bind_eq_ok h
  have times : hours.times = stamps.map LocalStamp.text := by
    obtain ⟨found, shown, columns⟩ := exists_of_bind_eq_ok columns
    obtain ⟨codes, -, columns⟩ := exists_of_bind_eq_ok columns
    rw [listed] at shown
    cases shown
    cases columns
    rfl
  exact ⟨hours, columns, tells_of_slotLines writable (by decide) times h⟩

theorem laterToday_of_report {place : Place} {forecast hourly : List Char}
    {stamps : List LocalStamp} {seconds : Int} {text : String}
    (object : Field.object? forecast "hourly".toList = some hourly)
    (listed : times hourly = .ok (stamps.map LocalStamp.text))
    (ok : report place forecast seconds = .ok text) :
    ∃ localTime hours current later daily,
      localTime = seconds + (Zone.ofName (place.zone.getD "")).offset seconds ∧
      (place.zone.getD "" ∉ zoneNames → localTime = seconds) ∧
      86400 * (dateOf localTime).toDays ≤ localTime ∧
      localTime < 86400 * (dateOf localTime).toDays + 86400 ∧
      hourlyColumns hourly = .ok hours ∧
      text = "\n".intercalate (reportLines place.name current later daily) ∧
      LaterToday stamps localTime hours (reportLines place.name current later daily) later := by
  obtain ⟨localTime, clock, ok⟩ := exists_of_bind_eq_ok ok
  obtain ⟨current, now, ok⟩ := exists_of_bind_eq_ok ok
  obtain ⟨later, today, ok⟩ := exists_of_bind_eq_ok ok
  obtain ⟨daily, days, ok⟩ := exists_of_bind_eq_ok ok
  obtain ⟨ahead, writable⟩ := of_localSeconds clock
  obtain ⟨hours, columns, told⟩ := tells_of_laterLines writable object listed today
  cases ok
  obtain ⟨begun, unfinished⟩ := dateOf_bounds localTime
  refine ⟨localTime, hours, current, later, daily, ahead, fun unknown => ?_, begun, unfinished,
    columns, rfl, ?_⟩
  · rw [ahead, offset_of_unknown unknown, Int.add_zero]
  · exact laterToday_reportLines (isApart_of_currentLine now) (isApart_of_dailyLines days) told

/-! ## An island a day ahead -/

def islandPlace : Place := ⟨1.87, -157.4, "Kiritimati", some "Pacific/Kiritimati"⟩

def islandHourly : List Char :=
  ("\x7b\"time\":[\"2025-11-10T22:00\",\"2025-11-11T12:00\",\"2025-11-11T22:00\"],"
    ++ "\"temperature_2m\":[20.5,25.0,24.0]\x7d").toList

def islandForecast : List Char := "\x7b\"hourly\":".toList ++ islandHourly ++ "\x7d".toList

def islandStamps : List LocalStamp :=
  [⟨⟨2025, 11, 10⟩, 22, 0, by decide, ⟨by decide, by decide, by decide, by decide⟩, by decide⟩,
    ⟨⟨2025, 11, 11⟩, 12, 0, by decide, ⟨by decide, by decide, by decide, by decide⟩, by decide⟩,
    ⟨⟨2025, 11, 11⟩, 22, 0, by decide, ⟨by decide, by decide, by decide, by decide⟩, by decide⟩]

def islandReport : String :=
  "🌤️ *Weather for Kiritimati*\n\n🕒 *Later today*\n• Night:   🌡️ 24.0°C\n\n"
    ++ "📅 *10-day forecast*\n\n_Source: Open-Meteo — https://open-meteo.com_"

theorem laterToday_of_report_island :
    report islandPlace islandForecast 1762813800 = .ok islandReport ∧
    ∃ hours current later daily,
      islandReport = "\n".intercalate (reportLines "Kiritimati" current later daily) ∧
      LaterToday islandStamps 1762864200 hours (reportLines "Kiritimati" current later daily)
        later ∧
      List.Forall₂ (Tells islandStamps 1762864200 hours) later [("Night", 22)] := by
  have object : Field.object? islandForecast "hourly".toList = some islandHourly := by
    decide +kernel
  have listed : times islandHourly = .ok (islandStamps.map LocalStamp.text) := by decide +kernel
  have ok : report islandPlace islandForecast 1762813800 = .ok islandReport := by decide +kernel
  have offset : (Zone.ofName (islandPlace.zone.getD "")).offset 1762813800 = 50400 := by
    decide +kernel
  have ahead : slots.filter (fun slot => IsAhead islandStamps 1762864200 slot.2) =
      [("Night", 22)] := by
    decide +kernel
  obtain ⟨localTime, hours, current, later, daily, same, -, -, -, -, lines, rest⟩ :=
    laterToday_of_report object listed ok
  rw [offset] at same
  subst same
  exact ⟨ok, hours, current, later, daily, lines, rest, ahead ▸ rest.told⟩

end Sidekick.Weather
