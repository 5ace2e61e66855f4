import JsonShape.Proofs.TextFormat.Calendar
import JsonShape.Proofs.TextFormat.Expressions

/-!
# Expressions of digits

The formats that are made of groups of digits. UUIDs and phone numbers are what their expressions fit
(`isUuid_iff_fitsExpression`, `isPhone_iff_fitsExpression`). The expressions of dates and times have the
digits in the right places, and what is recognised has a day of the calendar and a time of the clock
there besides (`isDate_iff_fitsExpression` and so on).
-/

set_option autoImplicit false

namespace JsonShape

open Pattern

namespace TextFormat

/-! ## Groups -/

section groups

variable {set : CharSet} {separator : Char}

theorem mem_language_groupParts_singleton {size : Nat} {cs : List Char} :
    cs ∈ ((groupParts set separator [size]).map language).prod ↔
      cs.length = size ∧ ∀ c ∈ cs, set.contains c = true := by
  show cs ∈ (times (one set) size).language * 1 ↔ _
  rw [mul_one, mem_language_times_one]

theorem mem_language_groupParts_cons {size next : Nat} {sizes : List Nat} {cs : List Char} :
    cs ∈ ((groupParts set separator (size :: next :: sizes)).map language).prod ↔
      ∃ first rest, (first.length = size ∧ ∀ c ∈ first, set.contains c = true) ∧
        rest ∈ ((groupParts set separator (next :: sizes)).map language).prod ∧
          first ++ separator :: rest = cs := by
  show cs ∈ (times (one set) size).language * ((char separator).language *
    ((groupParts set separator (next :: sizes)).map language).prod) ↔ _
  simp only [Language.mem_mul, mem_language_char, mem_language_times_one]
  constructor
  · rintro ⟨first, front, _, ⟨_, rfl, rest, back, rfl⟩, rfl⟩
    exact ⟨first, rest, front, back, rfl⟩
  · rintro ⟨first, rest, front, back, rfl⟩
    exact ⟨first, front, separator :: rest, ⟨[separator], rfl, rest, back, rfl⟩, rfl⟩

/-- Groups have as many characters as their sizes and the separators between. -/
theorem length_of_mem_language_groupParts {size : Nat} {sizes : List Nat} {cs : List Char}
    (h : cs ∈ ((groupParts set separator (size :: sizes)).map language).prod) :
    cs.length = (size :: sizes).sum + sizes.length := by
  induction sizes generalizing size cs with
  | nil => exact (mem_language_groupParts_singleton.1 h).1
  | cons next sizes ih =>
    obtain ⟨first, rest, ⟨length, -⟩, back, rfl⟩ := mem_language_groupParts_cons.1 h
    rw [List.length_append, List.length_cons, length, ih back, List.sum_cons (a := size),
      List.length_cons]
    omega

end groups

/-! ## UUIDs -/

theorem contains_hex {c : Char} : CharSet.hex.contains c = true ↔ (hexDigit? c).isSome = true := by
  simp only [CharSet.hex, CharSet.contains_anyOf, List.mem_cons, List.not_mem_nil, or_false,
    exists_eq_or_imp, exists_eq_left, CharSet.asciiDigits, CharSet.contains, Bool.and_eq_true,
    decide_eq_true_eq, hexDigit?]
  split_ifs <;> simp_all

theorem isHexGroups_iff {sizes : List Nat} (some : sizes ≠ []) {cs : List Char} :
    isHexGroups sizes cs = true ↔ cs ∈ ((groupParts .hex '-' sizes).map language).prod := by
  have group (size : Nat) (cs : List Char) :
      (cs.length == size && cs.all fun c => (hexDigit? c).isSome) = true ↔
        cs.length = size ∧ ∀ c ∈ cs, CharSet.hex.contains c = true := by
    simp only [Bool.and_eq_true, beq_iff_eq, List.all_eq_true, contains_hex]
  fun_induction isHexGroups sizes cs with
  | case1 => exact absurd rfl some
  | case2 size cs => rw [mem_language_groupParts_singleton, group]
  | case3 size sizes cs more ih =>
    obtain ⟨next, sizes, rfl⟩ := List.exists_cons_of_ne_nil more
    rw [mem_language_groupParts_cons, Bool.and_eq_true, group]
    constructor
    · rintro ⟨front, back⟩
      split at back
      · next rest cut =>
        refine ⟨cs.take size, rest, front, (ih rest (List.cons_ne_nil _ _)).1 back, ?_⟩
        rw [← cut, List.take_append_drop]
      · cases back
    · rintro ⟨first, rest, front, back, rfl⟩
      rw [List.take_left' front.1, List.drop_left' front.1]
      exact ⟨front, (ih rest (List.cons_ne_nil _ _)).2 back⟩

theorem isUuid_iff_fitsExpression {s : String} :
    isUuid s = true ↔ uuid.fitsExpression s = true := by
  rw [fitsExpression_iff (show uuid.expressionParts? = some _ from rfl), isUuid,
    isHexGroups_iff (List.cons_ne_nil _ _)]

/-! ## Phone numbers -/

theorem isPhone_iff_fitsExpression {s : String} :
    isPhone s = true ↔ phone.fitsExpression s = true := by
  rw [fitsExpression_iff (show phone.expressionParts? = some _ from rfl), isPhone, phoneParts]
  simp only [List.map_cons, List.map_nil, List.prod_cons, List.prod_nil, mul_one, Language.mem_mul,
    mem_language_char, mem_language_one, mem_language_repeated_one]
  have lead {c : Char} :
      (CharSet.anyOf [.range '1' '9']).contains c = true ↔ '1' ≤ c ∧ c ≤ '9' := by
    simp [CharSet.contains_anyOf, CharSet.contains]
  constructor
  · intro h
    split at h
    · next first more text =>
      simp only [Bool.and_eq_true, decide_eq_true_eq, List.all_eq_true] at h
      obtain ⟨⟨⟨low, six⟩, fourteen⟩, digits⟩ := h
      refine ⟨['+'], rfl, first :: more, ⟨[first], ⟨first, rfl, lead.2 low⟩, more, ?_, rfl⟩, text.symm⟩
      exact ⟨six, fun _ hm => Option.some.inj hm ▸ fourteen, digits⟩
    · cases h
  · rintro ⟨_, rfl, _, ⟨_, ⟨first, rfl, h⟩, more, ⟨six, fourteen, digits⟩, rfl⟩, text⟩
    have fourteen : more.length ≤ 14 := fourteen 8 rfl
    rw [← text]
    simp only [List.singleton_append, Bool.and_eq_true, decide_eq_true_eq, List.all_eq_true]
    exact ⟨⟨⟨lead.1 h, six⟩, fourteen⟩, digits⟩

/-! ## Dates -/

/-- A number in so many digits is a group of them. -/
theorem padded_digits (width n : Nat) :
    (padded width n).length = width ∧ ∀ c ∈ padded width n, CharSet.digits.contains c = true :=
  ⟨length_padded width n, fun _ hc => (isAsciiDigit_iff.1 (isAsciiDigit_of_mem_padded hc)).1⟩

/-- Three numbers in groups of digits. -/
theorem append_padded_mem {separator : Char} (width width' width'' a b c : Nat) :
    padded width a ++ separator :: padded width' b ++ separator :: padded width'' c ∈
      ((groupParts .digits separator [width, width', width'']).map language).prod := by
  rw [List.append_assoc, List.cons_append]
  refine mem_language_groupParts_cons.2 ⟨_, _, padded_digits width a, ?_, rfl⟩
  refine mem_language_groupParts_cons.2 ⟨_, _, padded_digits width' b, ?_, rfl⟩
  exact mem_language_groupParts_singleton.2 (padded_digits width'' c)

theorem Day.chars_mem (d : Day) : d.chars ∈ (dateParts.map language).prod :=
  append_padded_mem 4 2 2 d.year d.month d.day

theorem isDate_iff_fitsExpression {s : String} :
    isDate s = true ↔ date.fitsExpression s = true ∧ ∃ d : Day, s.toList = d.chars := by
  rw [fitsExpression_iff (show date.expressionParts? = some _ from rfl), isDate, isDateChars_iff]
  constructor
  · rintro ⟨d, text⟩
    exact ⟨text ▸ d.chars_mem, d, text⟩
  · exact And.right

/-! ## Times -/

theorem Clock.chars_mem (k : Clock) : k.chars ∈ (clockParts.map language).prod :=
  append_padded_mem 2 2 2 k.hour k.minute k.second

theorem mem_language_fractionPattern {cs : List Char} :
    cs ∈ fractionPattern.language ↔ Fraction isDecimalDigit cs := by
  simp only [fractionPattern, language_optional, language_sequence, List.map_cons, List.map_nil,
    List.prod_cons, List.prod_nil, mul_one, Language.mem_add, Language.mem_one, Language.mem_mul,
    mem_language_char, mem_language_repeated_one]
  refine or_congr_right ?_
  constructor
  · rintro ⟨_, rfl, digits, ⟨some, -, inside⟩, rfl⟩
    exact ⟨digits, List.length_pos_iff.1 some, inside, rfl⟩
  · rintro ⟨digits, some, inside, rfl⟩
    exact ⟨['.'], rfl, digits, ⟨List.length_pos_iff.2 some, nofun, inside⟩, rfl⟩

theorem mem_language_offsetParts {cs : List Char} :
    cs ∈ (offsetParts.map language).prod ↔
      ∃ sign hours minutes, (sign = '+' ∨ sign = '-') ∧ AnyOffset hours minutes ∧
        (cs = sign :: (hours ++ minutes) ∨ cs = sign :: (hours ++ ':' :: minutes)) := by
  have signed {c : Char} :
      (CharSet.anyOf [.single '+', .single '-']).contains c = true ↔ c = '+' ∨ c = '-' := by
    simp [CharSet.contains_anyOf, CharSet.contains_single]
  simp only [offsetParts, language_optional, List.map_cons, List.map_nil, List.prod_cons,
    List.prod_nil, mul_one, Language.mem_add, Language.mem_one, Language.mem_mul,
    mem_language_one, mem_language_char, mem_language_times_one, signed]
  constructor
  · rintro ⟨_, ⟨sign, rfl, hs⟩, _, ⟨hours, ⟨two, front⟩, _, ⟨colon, hc, minutes, ⟨two', back⟩, rfl⟩,
      rfl⟩, rfl⟩
    refine ⟨sign, hours, minutes, hs, ⟨two, two', List.forall_mem_append.2 ⟨front, back⟩⟩, ?_⟩
    rcases hc with rfl | rfl
    · exact .inl rfl
    · exact .inr rfl
  · rintro ⟨sign, hours, minutes, hs, ⟨two, two', digits⟩, text⟩
    obtain ⟨front, back⟩ := List.forall_mem_append.1 digits
    rcases text with rfl | rfl
    · exact ⟨[sign], ⟨sign, rfl, hs⟩, _, ⟨hours, ⟨two, front⟩, _,
        ⟨[], .inl rfl, minutes, ⟨two', back⟩, rfl⟩, rfl⟩, rfl⟩
    · exact ⟨[sign], ⟨sign, rfl, hs⟩, _, ⟨hours, ⟨two, front⟩, _,
        ⟨[':'], .inr rfl, minutes, ⟨two', back⟩, rfl⟩, rfl⟩, rfl⟩

theorem mem_language_zonePattern {cs : List Char} :
    cs ∈ zonePattern.language ↔ Zone AnyOffset cs := by
  have utc {c : Char} :
      (CharSet.anyOf [.single 'Z', .single 'z']).contains c = true ↔ c = 'Z' ∨ c = 'z' := by
    simp [CharSet.contains_anyOf, CharSet.contains_single]
  simp only [zonePattern, language_optional, language_either, language_sequence, List.map_cons,
    List.map_nil, List.prod_cons, List.prod_nil, mul_one, Language.mem_add, Language.mem_one,
    mem_language_one, utc, mem_language_offsetParts]
  constructor
  · rintro (rfl | ⟨letter, rfl, h⟩ | ⟨sign, hours, minutes, signed, offset, rfl | rfl⟩)
    · exact .unsaid
    · exact .utc h
    · exact .joined signed offset
    · exact .parted signed offset
  · intro h
    cases h with
    | unsaid => exact .inl rfl
    | utc h => exact .inr (.inl ⟨_, rfl, h⟩)
    | joined signed offset => exact .inr (.inr ⟨_, _, _, signed, offset, .inl rfl⟩)
    | parted signed offset => exact .inr (.inr ⟨_, _, _, signed, offset, .inr rfl⟩)

theorem mem_language_timeParts {cs : List Char} :
    cs ∈ (timeParts.map language).prod ↔
      ∃ clock ∈ (clockParts.map language).prod, ∃ tail, LooseTail tail ∧ clock ++ tail = cs := by
  simp only [timeParts, List.map_cons, List.map_nil, List.prod_cons, List.prod_nil, mul_one,
    language_sequence, Language.mem_mul, mem_language_fractionPattern, mem_language_zonePattern]
  refine exists_congr fun clock => and_congr_right fun _ => exists_congr fun tail => ?_
  refine and_congr_left fun _ => ?_
  constructor
  · rintro ⟨fraction, hf, zone, hz, rfl⟩
    exact ⟨fraction, zone, rfl, hf, hz⟩
  · rintro ⟨fraction, zone, rfl, hf, hz⟩
    exact ⟨fraction, hf, zone, hz, rfl⟩

/-- A text has the digits of a time in the right places, and a clock shows the first of them. -/
theorem isTimeText_iff_mem {cs : List Char} :
    IsTimeText LooseTail cs ↔
      cs ∈ (timeParts.map language).prod ∧ ∃ k : Clock, cs.take 8 = k.chars := by
  rw [mem_language_timeParts]
  constructor
  · rintro ⟨k, tail, rfl, loose⟩
    exact ⟨⟨k.chars, k.chars_mem, tail, loose, rfl⟩, k, List.take_left' k.length_chars⟩
  · rintro ⟨⟨clock, hm, tail, loose, rfl⟩, k, shown⟩
    have eight : clock.length = 8 := length_of_mem_language_groupParts hm
    rw [List.take_left' eight] at shown
    exact ⟨k, tail, by rw [shown], loose⟩

theorem isTime_iff_fitsExpression {s : String} :
    isTime s = true ↔
      time.fitsExpression s = true ∧ ∃ k : Clock, s.toList.take 8 = k.chars := by
  rw [fitsExpression_iff (show time.expressionParts? = some _ from rfl), isTime,
    isTimeChars_iff_isTimeText, isTimeText_iff_mem]

/-! ## Date-times -/

theorem mem_language_dateTimeParts {cs : List Char} :
    cs ∈ (dateTimeParts.map language).prod ↔
      ∃ date ∈ (dateParts.map language).prod, ∃ separator rest,
        (separator = 'T' ∨ separator = 't' ∨ separator = ' ') ∧
          rest ∈ (timeParts.map language).prod ∧ date ++ separator :: rest = cs := by
  have separated {c : Char} :
      (CharSet.anyOf [.single 'T', .single 't', .single ' ']).contains c = true ↔
        c = 'T' ∨ c = 't' ∨ c = ' ' := by
    simp [CharSet.contains_anyOf, CharSet.contains_single]
  simp only [dateTimeParts, List.cons_append, List.nil_append, List.map_cons, List.prod_cons,
    language_sequence, Language.mem_mul, mem_language_one, separated]
  refine exists_congr fun date => and_congr_right fun _ => ?_
  constructor
  · rintro ⟨_, ⟨_, ⟨separator, rfl, hs⟩, rest, hr, rfl⟩, rfl⟩
    exact ⟨separator, rest, hs, hr, rfl⟩
  · rintro ⟨separator, rest, hs, hr, rfl⟩
    exact ⟨separator :: rest, ⟨[separator], ⟨separator, rfl, hs⟩, rest, hr, rfl⟩, rfl⟩

theorem isDateTime_iff_fitsExpression {s : String} :
    isDateTime s = true ↔
      dateTime.fitsExpression s = true ∧ (∃ d : Day, s.toList.take 10 = d.chars) ∧
        ∃ k : Clock, (s.toList.drop 11).take 8 = k.chars := by
  have after (date rest : List Char) (separator : Char) (ten : date.length = 10) :
      (date ++ separator :: rest).drop 11 = rest := by
    rw [List.append_cons]
    exact List.drop_left' (by rw [List.length_append, ten, List.length_singleton])
  rw [fitsExpression_iff (show dateTime.expressionParts? = some _ from rfl), isDateTime_iff,
    mem_language_dateTimeParts]
  simp only [IsDateTimeText, isTimeText_iff_mem]
  constructor
  · rintro ⟨d, separator, rest, hs, text, hr, k, shown⟩
    rw [text, List.take_left' d.length_chars, after _ _ _ d.length_chars]
    exact ⟨⟨d.chars, d.chars_mem, separator, rest, hs, hr, rfl⟩, ⟨d, rfl⟩, k, shown⟩
  · rintro ⟨⟨date, hd, separator, rest, hs, hr, text⟩, ⟨d, named⟩, k, shown⟩
    have ten : date.length = 10 := length_of_mem_language_groupParts hd
    rw [← text, List.take_left' ten] at named
    rw [← text, after _ _ _ ten] at shown
    exact ⟨d, separator, rest, hs, by rw [← text, named], hr, k, shown⟩

end TextFormat

end JsonShape
