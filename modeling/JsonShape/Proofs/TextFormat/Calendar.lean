import Mathlib.Data.String.Basic
import Mathlib.Tactic.IntervalCases
import JsonShape.Proofs.Text.Digits
import JsonShape.Proofs.TextFormat.Candidate
import JsonShape.Proofs.TextFormat.Tail

/-!
# Dates and times, from what they name

A date is a day of the calendar, written down, and a time begins with the time of a clock, written down:
nothing else is recognised (`isDateChars_iff`, `isTimeChars_iff`). With what may follow a clock
(`isTimeTail_iff`) this says which texts are detected as dates, times and date-times, and which of them
should not be (`detect_calendar`).
-/

set_option autoImplicit false

namespace JsonShape

namespace TextFormat

/-! ## Days -/

/-- The number of days of each month of a year, in the Gregorian calendar. -/
def monthLengths (year : Nat) : List Nat :=
  [31, if 4 ∣ year ∧ (100 ∣ year → 400 ∣ year) then 29 else 28, 31, 30, 31, 30, 31, 31, 30, 31, 30,
    31]

/-- A day of the years 0 to 9999. -/
structure Day where
  year : Nat
  month : Nat
  day : Nat
  year_le : year ≤ 9999
  month_pos : 1 ≤ month
  day_pos : 1 ≤ day
  /-- The year has the month, and the month has the day. -/
  day_le : ∃ length ∈ (monthLengths year)[month - 1]?, day ≤ length

/-- A day as `YYYY-MM-DD`. -/
def Day.chars (d : Day) : List Char :=
  padded 4 d.year ++ '-' :: padded 2 d.month ++ '-' :: padded 2 d.day

theorem Day.length_chars (d : Day) : d.chars.length = 10 := by
  simp [chars, length_padded]

theorem isLeapYear_iff {year : Nat} :
    isLeapYear year = true ↔ 4 ∣ year ∧ (100 ∣ year → 400 ∣ year) := by
  simp only [isLeapYear, Bool.and_eq_true, Bool.or_eq_true, beq_iff_eq, bne_iff_ne, ne_eq]
  omega

theorem getElem?_monthLengths {year month : Nat} (low : 1 ≤ month) (high : month ≤ 12) :
    (monthLengths year)[month - 1]? = some (daysInMonth year month) := by
  have february : (if 4 ∣ year ∧ (100 ∣ year → 400 ∣ year) then 29 else 28) =
      if isLeapYear year = true then 29 else 28 := by
    simp only [isLeapYear_iff]
  rw [monthLengths, february]
  interval_cases month <;> rfl

theorem daysInMonth_le (year month : Nat) : daysInMonth year month ≤ 31 := by
  unfold daysInMonth
  split
  · split <;> omega
  all_goals omega

theorem isDay_iff {year month day : Nat} :
    isDay year month day = true ↔
      1 ≤ month ∧ 1 ≤ day ∧ ∃ length ∈ (monthLengths year)[month - 1]?, day ≤ length := by
  simp only [isDay, Bool.and_eq_true, decide_eq_true_eq]
  constructor
  · rintro ⟨⟨⟨low, high⟩, first⟩, last⟩
    exact ⟨low, first, _, getElem?_monthLengths low high, last⟩
  · rintro ⟨low, first, length, found, last⟩
    have high : month ≤ 12 := by
      have within : month - 1 < (monthLengths year).length := (List.getElem?_eq_some_iff.1 found).1
      have twelve : (monthLengths year).length = 12 := rfl
      omega
    rw [getElem?_monthLengths low high] at found
    cases found
    exact ⟨⟨⟨low, high⟩, first⟩, last⟩

/-! ## Dates -/

/-- What is recognised as a date is a day, written down. -/
theorem isDateChars_iff {cs : List Char} : isDateChars cs = true ↔ ∃ d : Day, cs = d.chars := by
  constructor
  · intro h
    unfold isDateChars at h
    split at h
    · next a b c d e f g i =>
      simp only [Bool.and_eq_true, List.all_cons, List.all_nil] at h
      obtain ⟨⟨ha, hb, hc, hd, he, hf, hg, hi, -⟩, real⟩ := h
      obtain ⟨year, year_le⟩ := padded_four ha hb hc hd
      obtain ⟨low, first, last⟩ := isDay_iff.1 real
      refine ⟨⟨_, _, _, year_le, low, first, last⟩, ?_⟩
      simp [Day.chars, year, padded_two he hf, padded_two hg hi]
    · cases h
  · rintro ⟨d, rfl⟩
    have real : isDay d.year d.month d.day = true := isDay_iff.2 ⟨d.month_pos, d.day_pos, d.day_le⟩
    have month : d.month < 100 := by
      simp only [isDay, Bool.and_eq_true, decide_eq_true_eq] at real
      omega
    have day : d.day < 100 := by
      simp only [isDay, Bool.and_eq_true, decide_eq_true_eq] at real
      have := daysInMonth_le d.year d.month
      omega
    obtain ⟨a, b, c, e, year, digits, year_eq⟩ := exists_padded_four d.year_le
    obtain ⟨f, g, month, hf, hg, month_eq⟩ := exists_padded_two month
    obtain ⟨i, j, day, hi, hj, day_eq⟩ := exists_padded_two day
    simp only [List.forall_mem_cons] at digits
    rw [Day.chars, year, month, day]
    simp [isDateChars, digits, hf, hg, hi, hj, year_eq, month_eq, day_eq, real]

/-! ## Clocks -/

/-- A time of a clock, with the leap second. -/
structure Clock where
  hour : Nat
  minute : Nat
  second : Nat
  hour_le : hour ≤ 23
  minute_le : minute ≤ 59
  second_le : second ≤ 60

/-- A time as `HH:MM:SS`. -/
def Clock.chars (c : Clock) : List Char :=
  padded 2 c.hour ++ ':' :: padded 2 c.minute ++ ':' :: padded 2 c.second

theorem Clock.length_chars (c : Clock) : c.chars.length = 8 := by
  simp [chars, length_padded]

/-- What is recognised as a time begins with a clock, written down. -/
theorem isTimeChars_iff {cs : List Char} :
    isTimeChars cs = true ↔
      ∃ (c : Clock) (tail : List Char), cs = c.chars ++ tail ∧ isTimeTail tail = true := by
  constructor
  · intro h
    unfold isTimeChars at h
    split at h
    · next a b c d e f tail =>
      simp only [Bool.and_eq_true, List.all_cons, List.all_nil, decide_eq_true_eq] at h
      obtain ⟨⟨⟨⟨⟨ha, hb, hc, hd, he, hf, -⟩, hour⟩, minute⟩, second⟩, ht⟩ := h
      refine ⟨⟨_, _, _, hour, minute, second⟩, tail, ?_, ht⟩
      simp [Clock.chars, padded_two ha hb, padded_two hc hd, padded_two he hf]
    · cases h
  · rintro ⟨c, tail, rfl, ht⟩
    have hour_le := c.hour_le
    have minute_le := c.minute_le
    have second_le := c.second_le
    obtain ⟨a, b, hour, ha, hb, hour_eq⟩ := exists_padded_two (n := c.hour) (by omega)
    obtain ⟨d, e, minute, hd, he, minute_eq⟩ := exists_padded_two (n := c.minute) (by omega)
    obtain ⟨f, g, second, hf, hg, second_eq⟩ := exists_padded_two (n := c.second) (by omega)
    rw [Clock.chars, hour, minute, second]
    simp [isTimeChars, ha, hb, hd, he, hf, hg, hour_eq, minute_eq, second_eq, hour_le, minute_le,
      second_le, ht]

/-! ## What is detected -/

/-- A time, with a tail of a kind. -/
def IsTimeText (tail : List Char → Prop) (cs : List Char) : Prop :=
  ∃ (k : Clock) (rest : List Char), cs = k.chars ++ rest ∧ tail rest

/-- A date, one of `T`, `t` and a blank, and a time, with a tail of a kind. -/
def IsDateTimeText (tail : List Char → Prop) (cs : List Char) : Prop :=
  ∃ (d : Day) (separator : Char) (rest : List Char),
    (separator = 'T' ∨ separator = 't' ∨ separator = ' ') ∧ cs = d.chars ++ separator :: rest ∧
      IsTimeText tail rest

theorem isTimeChars_iff_isTimeText {cs : List Char} :
    isTimeChars cs = true ↔ IsTimeText LooseTail cs := by
  simp only [isTimeChars_iff, isTimeTail_iff, IsTimeText]

theorem isDateTime_iff {s : String} : isDateTime s = true ↔ IsDateTimeText LooseTail s.toList := by
  rw [isDateTime]
  constructor
  · intro h
    split at h
    · next separator rest cut =>
      simp only [Bool.and_eq_true, Bool.or_eq_true, beq_iff_eq, isDateChars_iff,
        isTimeChars_iff_isTimeText, or_assoc] at h
      obtain ⟨⟨separated, d, front⟩, back⟩ := h
      refine ⟨d, separator, rest, separated, ?_, back⟩
      rw [← front, ← cut, List.take_append_drop]
    · cases h
  · rintro ⟨d, separator, rest, separated, whole, back⟩
    have front : s.toList.take 10 = d.chars := by
      rw [whole]
      exact List.take_left' d.length_chars
    have cut : s.toList.drop 10 = separator :: rest := by
      rw [whole]
      exact List.drop_left' d.length_chars
    rw [cut, front]
    simp only [Bool.and_eq_true, Bool.or_eq_true, beq_iff_eq, isDateChars_iff,
      isTimeChars_iff_isTimeText, or_assoc]
    exact ⟨⟨separated, d, rfl⟩, back⟩

/-! ## What should be detected -/

theorem Clock.isAscii_of_mem {k : Clock} {c : Char} (h : c ∈ k.chars) : isAscii c = true := by
  simp only [chars, List.mem_append, List.mem_cons] at h
  rcases h with (h | rfl | h) | rfl | h
  · exact isAscii_of_mem_padded h
  · rfl
  · exact isAscii_of_mem_padded h
  · rfl
  · exact isAscii_of_mem_padded h

theorem Day.isAscii_of_mem {d : Day} {c : Char} (h : c ∈ d.chars) : isAscii c = true := by
  simp only [chars, List.mem_append, List.mem_cons] at h
  rcases h with (h | rfl | h) | rfl | h
  · exact isAscii_of_mem_padded h
  · rfl
  · exact isAscii_of_mem_padded h
  · rfl
  · exact isAscii_of_mem_padded h

/-- Of the times that are recognised those of ISO 8601 are the ones in ASCII with an offset below a
day. -/
theorem isTimeText_isoTail_iff {cs : List Char} :
    IsTimeText IsoTail cs ↔
      IsTimeText LooseTail cs ∧ (∀ c ∈ cs, isAscii c = true) ∧ OffsetInRange (cs.drop 8) := by
  constructor
  · rintro ⟨k, rest, rfl, iso⟩
    obtain ⟨loose, ascii, range⟩ := isoTail_iff.1 iso
    rw [List.drop_left' k.length_chars]
    refine ⟨⟨k, rest, rfl, loose⟩, ?_, range⟩
    exact List.forall_mem_append.2 ⟨fun c hc => k.isAscii_of_mem hc, ascii⟩
  · rintro ⟨⟨k, rest, rfl, loose⟩, ascii, range⟩
    rw [List.drop_left' k.length_chars] at range
    exact ⟨k, rest, rfl, isoTail_iff.2 ⟨loose, (List.forall_mem_append.1 ascii).2, range⟩⟩

theorem isDateTimeText_isoTail_iff {cs : List Char} :
    IsDateTimeText IsoTail cs ↔
      IsDateTimeText LooseTail cs ∧ (∀ c ∈ cs, isAscii c = true) ∧ OffsetInRange (cs.drop 19) := by
  have tail (d : Day) (separator : Char) (rest : List Char) :
      (d.chars ++ separator :: rest).drop 19 = rest.drop 8 := by
    have front : (d.chars ++ [separator]).length = 11 := by
      rw [List.length_append, d.length_chars, List.length_singleton]
    rw [List.append_cons, ← List.drop_drop (i := 8) (j := 11), List.drop_left' front]
  constructor
  · rintro ⟨d, separator, rest, separated, rfl, iso⟩
    obtain ⟨loose, ascii, range⟩ := isTimeText_isoTail_iff.1 iso
    refine ⟨⟨d, separator, rest, separated, rfl, loose⟩, ?_, ?_⟩
    · rw [List.forall_mem_append, List.forall_mem_cons]
      refine ⟨fun c hc => d.isAscii_of_mem hc, ?_, ascii⟩
      rcases separated with rfl | rfl | rfl <;> rfl
    · rwa [tail]
  · rintro ⟨⟨d, separator, rest, separated, rfl, loose⟩, ascii, range⟩
    rw [tail] at range
    rw [List.forall_mem_append, List.forall_mem_cons] at ascii
    exact ⟨d, separator, rest, separated, rfl, isTimeText_isoTail_iff.2 ⟨loose, ascii.2.2, range⟩⟩

/-- What is detected as a date is a day, written down. What is detected as a time or a date-time is one of
ISO 8601, apart from its tail: digits of any script, and any offset of four digits. Those of ISO 8601 are
detected all the same, and of what is detected they are the texts in ASCII with an offset below a day. -/
theorem detect_calendar (s : String) :
    (Detectors.all.detect s = some date ↔ ∃ d : Day, s.toList = d.chars) ∧
    (Detectors.all.detect s = some time ↔ IsTimeText LooseTail s.toList) ∧
    (Detectors.all.detect s = some dateTime ↔ IsDateTimeText LooseTail s.toList) ∧
    (IsTimeText IsoTail s.toList ↔ Detectors.all.detect s = some time ∧
      (∀ c ∈ s.toList, isAscii c = true) ∧ OffsetInRange (s.toList.drop 8)) ∧
    (IsDateTimeText IsoTail s.toList ↔ Detectors.all.detect s = some dateTime ∧
      (∀ c ∈ s.toList, isAscii c = true) ∧ OffsetInRange (s.toList.drop 19)) := by
  have day : Detectors.all.detect s = some date ↔ ∃ d : Day, s.toList = d.chars :=
    Detectors.detect_eq_some_iff.trans ((and_iff_right rfl).trans isDateChars_iff)
  have clock : Detectors.all.detect s = some time ↔ IsTimeText LooseTail s.toList :=
    Detectors.detect_eq_some_iff.trans ((and_iff_right rfl).trans isTimeChars_iff_isTimeText)
  have both : Detectors.all.detect s = some dateTime ↔ IsDateTimeText LooseTail s.toList :=
    Detectors.detect_eq_some_iff.trans ((and_iff_right rfl).trans isDateTime_iff)
  refine ⟨day, clock, both, ?_, ?_⟩
  · rw [clock, isTimeText_isoTail_iff]
  · rw [both, isDateTimeText_isoTail_iff]

/-- Four nines are detected as an offset, though no zone is so far from UTC. -/
theorem detect_calendar_offset :
    Detectors.all.detect "12:00:00+99:99" = some time ∧
      ¬ IsTimeText IsoTail "12:00:00+99:99".toList := by
  constructor
  · rw [Detectors.detect_eq_some_iff]
    decide
  · rw [isTimeText_isoTail_iff]
    rintro ⟨-, -, range⟩
    revert range
    decide

end TextFormat

end JsonShape
