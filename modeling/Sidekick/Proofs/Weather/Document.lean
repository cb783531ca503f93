import Sidekick.Proofs.Field.Document
import Sidekick.Proofs.Weather.Table

namespace Sidekick.Weather
open Number Text Sidekick.Field

def listText : List (List Char) → List Char
  | [] => []
  | [t] => t
  | t :: u :: ts => t ++ ',' :: listText (u :: ts)

def Fields.arrays (fields : Fields) (table : List Entry) : List (List Char × List Char) :=
  [(fields.high.toList, listText (table.map (·.high))),
    (fields.chance.toList, listText (table.map (·.chance))),
    (fields.rain.toList, listText (table.map (·.rain))),
    ("weather_code".toList, listText (table.map (·.code)))] ++
  fields.low.toList.map fun low => (low.toList, listText (table.map (·.low)))

def timesArray (table : List Entry) : List Char × List Char :=
  ("time".toList, listText (table.map fun e => quoted e.time))

def tableText (fields : Fields) (table : List Entry) : List Char :=
  arraysDocument fields.name.toList (fields.arrays table) (timesArray table)

theorem listed_listText (ts : List (List Char)) : Listed ts (listText ts) := by
  have none : Blanks [] := by simp [Blanks]
  induction ts with
  | nil => exact .none none
  | cons t ts ih =>
      cases ts with
      | nil =>
          have alone := Listed.last (t := t) none none
          rwa [List.nil_append, List.append_nil] at alone
      | cons u ts => exact Listed.more (t := t) none none ih

theorem not_mem_listText {c : Char} (comma : c ≠ ',') {ts : List (List Char)}
    (h : ∀ t ∈ ts, c ∉ t) : c ∉ listText ts := by
  induction ts with
  | nil => simp [listText]
  | cons t ts ih =>
      have first := h t List.mem_cons_self
      have later := ih fun u hu => h u (List.mem_cons_of_mem _ hu)
      cases ts with
      | nil => exact first
      | cons u ts =>
          rw [listText, List.mem_append, List.mem_cons, not_or, not_or]
          exact ⟨first, comma, later⟩

def structureChars : List Char := ['\x22', '[', ']', '\x7b', '\x7d']

theorem not_mem_numeral {t : List Char} (h : ∀ c ∈ t, c ∈ numeralChars) :
    ∀ c ∈ structureChars, c ∉ t := by
  have all : ∀ c ∈ structureChars, c ∉ numeralChars := by decide
  exact fun c hc mem => all c hc (h c mem)

theorem not_mem_nullText : ∀ c ∈ structureChars, c ∉ nullText := by decide

theorem not_mem_numberCell {t : List Char} (h : IsNumberCell t) : ∀ c ∈ structureChars, c ∉ t := by
  rcases h with rfl | ⟨plain, -⟩
  · exact not_mem_nullText
  · exact not_mem_numeral plain

theorem not_mem_integerCell {t : List Char} (h : IsIntegerCell t) :
    ∀ c ∈ structureChars, c ∉ t := by
  rcases h with rfl | ⟨sign, digits, hs, hd, -, -, rfl⟩
  · exact not_mem_nullText
  · apply not_mem_numeral
    intro c hc
    rcases List.mem_append.mp hc with hc | hc
    · exact mem_numeralChars_of_isSign hs c hc
    · exact mem_numeralChars_of_isDigit (hd c hc)

theorem not_mem_column {table : List Entry} {cell : Entry → List Char}
    (h : ∀ e ∈ table, ∀ c ∈ structureChars, c ∉ cell e) :
    ∀ c ∈ structureChars, c ∉ listText (table.map cell) := by
  have comma : ∀ c ∈ structureChars, c ≠ ',' := by decide
  intro c hc
  apply not_mem_listText (comma c hc)
  intro t ht
  obtain ⟨e, he, rfl⟩ := List.mem_map.mp ht
  exact h e he c hc

theorem not_mem_arrays (fields : Fields) {table : List Entry} (valid : ∀ e ∈ table, e.Valid) :
    ∀ m ∈ fields.arrays table, ∀ c ∈ structureChars, c ∉ m.2 := by
  intro m hm
  simp only [Fields.arrays, List.mem_append, List.mem_cons, List.not_mem_nil, or_false,
    List.mem_map] at hm
  rcases hm with (rfl | rfl | rfl | rfl) | ⟨low, -, rfl⟩
  · exact not_mem_column fun e he => not_mem_numberCell (valid e he).high.1
  · exact not_mem_column fun e he => not_mem_numberCell (valid e he).chance.1
  · exact not_mem_column fun e he => not_mem_numberCell (valid e he).rain.1
  · exact not_mem_column fun e he => not_mem_integerCell (valid e he).code
  · exact not_mem_column fun e he => not_mem_numberCell (valid e he).low.1

theorem not_mem_times {table : List Entry} (valid : ∀ e ∈ table, e.Valid) :
    ∀ c ∈ ['[', ']', '\x7b', '\x7d'], c ∉ (timesArray table).2 := by
  have other : ∀ c ∈ ['[', ']', '\x7b', '\x7d'], c ≠ ',' ∧ c ≠ '\x22' := by decide
  intro c hc
  apply not_mem_listText (other c hc).1
  intro t ht mem
  obtain ⟨e, he, rfl⟩ := List.mem_map.mp ht
  simp only [quoted, List.mem_cons, List.mem_append, List.not_mem_nil, or_false, (other c hc).2,
    false_or] at mem
  exact (valid e he).time c mem hc

def Fields.names (fields : Fields) : List (List Char) :=
  [fields.high.toList, fields.chance.toList, fields.rain.toList, "weather_code".toList] ++
    fields.low.toList.map String.toList

theorem map_fst_arrays (fields : Fields) (table : List Entry) :
    (fields.arrays table).map Prod.fst = fields.names := by
  simp [Fields.arrays, Fields.names, Function.comp_def]

structure Fields.Proper (fields : Fields) : Prop where
  distinct : ("time".toList :: fields.names).Nodup
  name : ∀ n ∈ fields.names, IsName n
  braces : ∀ n ∈ fields.names, ∀ c ∈ ['\x7b', '\x7d'], c ∉ n

theorem proper_dayFields : dayFields.Proper where
  distinct := by decide +kernel
  name := by decide +kernel
  braces := by decide +kernel

theorem proper_hourFields : hourFields.Proper where
  distinct := by decide +kernel
  name := by decide +kernel
  braces := by decide +kernel

variable {fields : Fields} {table : List Entry}

theorem name_mem {m : List Char × List Char} (h : m ∈ fields.arrays table) :
    m.1 ∈ fields.names := by
  rw [← map_fst_arrays fields table]
  exact List.mem_map_of_mem h

theorem holdsElements_column (proper : fields.Proper) (valid : ∀ e ∈ table, e.Valid)
    {field : List Char} {ts : List (List Char)} (mem : (field, listText ts) ∈ fields.arrays table) :
    HoldsElements (arrayObject (fields.arrays table) (timesArray table)) field ts := by
  have plain := not_mem_arrays fields valid
  have distinct := (List.nodup_cons.mp proper.distinct).2
  obtain ⟨ms, ms', split⟩ := List.append_of_mem mem
  have other : OtherMembers field ms := by
    intro m hm
    have inside : m ∈ fields.arrays table := by
      rw [split]
      exact List.mem_append_left _ hm
    refine ⟨proper.name m.1 (name_mem inside), ?_, plain m inside '\x22' (by decide)⟩
    rintro rfl
    rw [← map_fst_arrays fields table, split, List.map_append, List.nodup_append] at distinct
    exact distinct.2.2 m.1 (List.mem_map_of_mem hm) m.1 (by simp) rfl
  have nested : Nested '[' ']' (listText ts) :=
    nested_of_not_mem (plain _ mem '[' (by decide)) (plain _ mem ']' (by decide))
  rw [split]
  exact ⟨_, holdsArray_member (proper.name field (name_mem mem)) other nested, listed_listText ts⟩

theorem holdsElements_times (proper : fields.Proper) (valid : ∀ e ∈ table, e.Valid) :
    HoldsElements (arrayObject (fields.arrays table) (timesArray table)) "time".toList
      (table.map fun e => quoted e.time) := by
  have new := (List.nodup_cons.mp proper.distinct).1
  have other : OtherMembers "time".toList (fields.arrays table) := by
    intro m hm
    have plain := not_mem_arrays fields valid m hm '\x22' (by decide)
    refine ⟨proper.name m.1 (name_mem hm), ?_, plain⟩
    intro same
    exact new (same ▸ name_mem hm)
  have name : IsName "time".toList := by decide +kernel
  have nested : Nested '[' ']' (timesArray table).2 :=
    nested_of_not_mem (not_mem_times valid '[' (by decide)) (not_mem_times valid ']' (by decide))
  have held : HoldsArray (arrayObject (fields.arrays table) (timesArray table))
      (timesArray table).1 (timesArray table).2 := holdsArray_last name other nested
  exact ⟨_, held, listed_listText _⟩

theorem holdsTable_tableText (proper : fields.Proper) (valid : ∀ e ∈ table, e.Valid) :
    HoldsTable (tableText fields table) fields table := by
  refine ⟨_, holdsObject_arrays ?_, ?_⟩
  · intro m hm c hc
    have marks : ∀ c ∈ ['\x7b', '\x7d'],
        c ∈ structureChars ∧ c ∈ ['[', ']', '\x7b', '\x7d'] ∧ c ∉ "time".toList := by
      decide +kernel
    rcases List.mem_cons.mp hm with rfl | hm
    · exact ⟨(marks c hc).2.2, not_mem_times valid c (marks c hc).2.1⟩
    · exact ⟨proper.braces m.1 (name_mem hm) c hc,
        not_mem_arrays fields valid m hm c (marks c hc).1⟩
  · exact {
      times := holdsElements_times proper valid
      highs := holdsElements_column proper valid (by simp [Fields.arrays])
      lows := fun low hlow => holdsElements_column proper valid
        (List.mem_append_right _ (List.mem_map.mpr ⟨low, Option.mem_toList.mpr hlow, rfl⟩))
      chances := holdsElements_column proper valid (by simp [Fields.arrays])
      rains := holdsElements_column proper valid (by simp [Fields.arrays])
      codes := holdsElements_column proper valid (by simp [Fields.arrays]) }

end Sidekick.Weather
