import Mathlib.Data.String.Basic
import JsonShape.Proofs.Text.Ascii
import JsonShape.Proofs.TextFormat.Calendar
import JsonShape.Proofs.TextFormat.Candidate
import JsonShape.Proofs.TextFormat.Characters

/-!
# Digits of other scripts

Formats other than URIs are made of ASCII characters, apart from three of them, which may have decimal digits
of other scripts from a place on (`looseFrom?`): times and date-times after the seconds, and phone numbers
after their first digit. This is all that can stand in a text of which a format is detected
(`detect_ascii`), and a phone number that is detected is one of E.164 exactly if it is ASCII.
-/

set_option autoImplicit false

namespace JsonShape

namespace TextFormat

/-! ## ASCII classes -/

theorem isAscii_of_inLabel {c : Char} (h : inLabel c = true) : isAscii c = true := by
  simp only [inLabel, Bool.or_eq_true, beq_iff_eq] at h
  rcases h with (letter | digit) | rfl
  · exact isAscii_of_isAsciiLetter letter
  · exact isAscii_of_isAsciiDigit digit
  · rfl

theorem isAscii_of_inMailbox {c : Char} (h : inMailbox c = true) : isAscii c = true := by
  simp only [inMailbox, Bool.or_eq_true, List.contains_iff_mem] at h
  rcases h with (letter | digit) | mark
  · exact isAscii_of_isAsciiLetter letter
  · exact isAscii_of_isAsciiDigit digit
  · have marks : ".!#$%&'*+/=?^_`\x7b|\x7d~-".toList.all isAscii = true := by decide
    exact List.all_eq_true.1 marks c mark

theorem isAscii_of_inIpv6 {c : Char} (h : inIpv6 c = true) : isAscii c = true := by
  simp only [inIpv6, Bool.or_eq_true, beq_iff_eq] at h
  rcases h with (digit | rfl) | rfl
  · exact isAscii_of_hexDigit? digit
  · rfl
  · rfl

/-! ## ASCII up to a place -/

/-- Where decimal digits of other scripts may begin in a text of a format. -/
def looseFrom? : TextFormat → Option Nat
  | time => some 8
  | dateTime => some 19
  | phone => some 2
  | _ => none

/-- ASCII characters, but for decimal digits of other scripts from a place on, if one is given. -/
def AsciiUpTo (place : Option Nat) (cs : List Char) : Prop :=
  ∀ i c, cs[i]? = some c →
    isAscii c = true ∨ (isDecimalDigit c = true ∧ ∃ start ∈ place, start ≤ i)

theorem asciiUpTo_none_iff {cs : List Char} :
    AsciiUpTo none cs ↔ ∀ c ∈ cs, isAscii c = true := by
  constructor
  · intro h c hc
    obtain ⟨i, hi⟩ := List.mem_iff_getElem?.1 hc
    rcases h i c hi with ascii | ⟨-, start, none, -⟩
    · exact ascii
    · cases none
  · intro h i c hi
    exact .inl (h c (List.mem_of_getElem? hi))

theorem asciiUpTo_append {front back : List Char} {place : Nat} (length : front.length = place)
    (hf : ∀ c ∈ front, isAscii c = true)
    (hb : ∀ c ∈ back, isAscii c = true ∨ isDecimalDigit c = true) :
    AsciiUpTo (some place) (front ++ back) := by
  intro i c hi
  by_cases early : i < front.length
  · rw [List.getElem?_append_left early] at hi
    exact .inl (hf c (List.mem_of_getElem? hi))
  · have late : place ≤ i := by omega
    rw [List.getElem?_append_right (by omega)] at hi
    refine (hb c (List.mem_of_getElem? hi)).imp_right fun digit => ⟨digit, place, rfl, late⟩

/-! ## Times -/

theorem ascii_or_digit_of_looseTail {cs : List Char} (h : LooseTail cs) :
    ∀ c ∈ cs, isAscii c = true ∨ isDecimalDigit c = true := by
  obtain ⟨fraction, zone, rfl, hf, hz⟩ := h
  have sign_ascii {sign : Char} (signed : sign = '+' ∨ sign = '-') : isAscii sign = true := by
    rcases signed with rfl | rfl <;> rfl
  rw [List.forall_mem_append]
  constructor
  · rcases hf with rfl | ⟨ds, -, digits, rfl⟩
    · simp
    · rw [List.forall_mem_cons]
      exact ⟨.inl rfl, fun c hc => .inr (digits c hc)⟩
  · cases hz with
    | unsaid => simp
    | utc letter =>
      rw [List.forall_mem_singleton]
      rcases letter with rfl | rfl <;> exact .inl rfl
    | joined signed offset =>
      rw [List.forall_mem_cons]
      exact ⟨.inl (sign_ascii signed), fun c hc => .inr (offset.2.2 c hc)⟩
    | parted signed offset =>
      obtain ⟨hours, minutes⟩ := List.forall_mem_append.1 offset.2.2
      rw [List.forall_mem_cons, List.forall_mem_append, List.forall_mem_cons]
      exact ⟨.inl (sign_ascii signed), fun c hc => .inr (hours c hc), .inl rfl,
        fun c hc => .inr (minutes c hc)⟩

theorem asciiUpTo_of_isTime {s : String} (h : isTime s = true) : AsciiUpTo (some 8) s.toList := by
  obtain ⟨k, tail, whole, loose⟩ := isTimeChars_iff_isTimeText.1 h
  rw [whole]
  exact asciiUpTo_append k.length_chars (fun c hc => k.isAscii_of_mem hc)
    (ascii_or_digit_of_looseTail loose)

theorem asciiUpTo_of_isDateTime {s : String} (h : isDateTime s = true) :
    AsciiUpTo (some 19) s.toList := by
  obtain ⟨d, separator, rest, separated, whole, k, tail, rfl, loose⟩ := isDateTime_iff.1 h
  have parts : s.toList = (d.chars ++ separator :: k.chars) ++ tail := by
    rw [whole, List.append_assoc, List.cons_append]
  rw [parts]
  refine asciiUpTo_append ?_ ?_ (ascii_or_digit_of_looseTail loose)
  · rw [List.length_append, List.length_cons, d.length_chars, k.length_chars]
  · rw [List.forall_mem_append, List.forall_mem_cons]
    refine ⟨fun c hc => d.isAscii_of_mem hc, ?_, fun c hc => k.isAscii_of_mem hc⟩
    rcases separated with rfl | rfl | rfl <;> rfl

/-! ## Phone numbers -/

/-- A number of E.164: a plus and 7 to 15 digits, of which the first is not 0. -/
def IsE164 (cs : List Char) : Prop :=
  ∃ digits, cs = '+' :: digits ∧ 7 ≤ digits.length ∧ digits.length ≤ 15 ∧
    (∀ c ∈ digits, isAsciiDigit c = true) ∧ digits.head? ≠ some '0'

theorem leading_digit_iff {c : Char} :
    ('1' ≤ c ∧ c ≤ '9') ↔ isAsciiDigit c = true ∧ c ≠ '0' := by
  have check : ∀ c : Char, c.toNat < 58 → (('1' ≤ c ∧ c ≤ '9') ↔ isAsciiDigit c = true ∧ c ≠ '0') :=
    forall_char_lt (by decide)
  by_cases small : c.toNat < 58
  · exact check c small
  · have large : ¬ c ≤ '9' := fun le => small (Nat.lt_succ_of_le le)
    constructor
    · rintro ⟨-, le⟩
      exact absurd le large
    · rintro ⟨digit, -⟩
      simp only [isAsciiDigit, Bool.and_eq_true, decide_eq_true_eq] at digit
      exact absurd digit.2 large

/-- What is recognised as a phone number has an ASCII digit in front, and digits of any script after it. -/
theorem isPhone_iff {s : String} :
    isPhone s = true ↔
      ∃ first more, s.toList = '+' :: first :: more ∧ (isAsciiDigit first = true ∧ first ≠ '0') ∧
        6 ≤ more.length ∧ more.length ≤ 14 ∧ ∀ c ∈ more, isDecimalDigit c = true := by
  rw [isPhone]
  constructor
  · intro h
    split at h
    · next first more whole =>
      simp only [Bool.and_eq_true, decide_eq_true_eq, List.all_eq_true] at h
      obtain ⟨⟨⟨leading, low⟩, high⟩, digits⟩ := h
      exact ⟨first, more, whole, leading_digit_iff.1 leading, low, high, digits⟩
    · cases h
  · rintro ⟨first, more, whole, leading, low, high, digits⟩
    rw [whole]
    simp only [Bool.and_eq_true, decide_eq_true_eq, List.all_eq_true]
    exact ⟨⟨⟨leading_digit_iff.2 leading, low⟩, high⟩, digits⟩

theorem asciiUpTo_of_isPhone {s : String} (h : isPhone s = true) : AsciiUpTo (some 2) s.toList := by
  obtain ⟨first, more, whole, leading, -, -, digits⟩ := isPhone_iff.1 h
  have parts : '+' :: first :: more = ['+', first] ++ more := rfl
  have front : ∀ c ∈ ['+', first], isAscii c = true := by
    rw [List.forall_mem_cons, List.forall_mem_singleton]
    exact ⟨rfl, isAscii_of_isAsciiDigit leading.1⟩
  rw [whole, parts]
  exact asciiUpTo_append rfl front fun c hc => .inr (digits c hc)

/-- Of the phone numbers that are recognised those of E.164 are the ones in ASCII. -/
theorem isE164_iff {s : String} :
    IsE164 s.toList ↔ isPhone s = true ∧ ∀ c ∈ s.toList, isAscii c = true := by
  constructor
  · rintro ⟨digits, whole, low, high, all, leading⟩
    cases digits with
    | nil => cases low
    | cons first more =>
      rw [List.forall_mem_cons] at all
      rw [List.length_cons] at low high
      have nonzero : first ≠ '0' := by simpa using leading
      have loose : ∀ c ∈ more, isDecimalDigit c = true := fun c hc => (isAsciiDigit_iff.1 (all.2 c hc)).1
      refine ⟨isPhone_iff.2 ⟨first, more, whole, ⟨all.1, nonzero⟩, by omega, by omega, loose⟩, ?_⟩
      rw [whole, List.forall_mem_cons, List.forall_mem_cons]
      exact ⟨rfl, isAscii_of_isAsciiDigit all.1, fun c hc => isAscii_of_isAsciiDigit (all.2 c hc)⟩
  · rintro ⟨found, ascii⟩
    obtain ⟨first, more, whole, ⟨digit, nonzero⟩, low, high, digits⟩ := isPhone_iff.1 found
    rw [whole, List.forall_mem_cons, List.forall_mem_cons] at ascii
    refine ⟨first :: more, whole, ?_, ?_, ?_, ?_⟩
    · rw [List.length_cons]
      omega
    · rw [List.length_cons]
      omega
    · rw [List.forall_mem_cons]
      exact ⟨digit, fun c hc => isAsciiDigit_iff.2 ⟨digits c hc, ascii.2.2 c hc⟩⟩
    · simpa using nonzero

/-! ## All formats -/

/-- A text of a format other than a URI is ASCII, but for digits of other scripts where the format lets them
be. -/
theorem asciiUpTo_of_recognises {f : TextFormat} {s : String} (h : f.recognises s = true)
    (other : f ≠ uri) : AsciiUpTo f.looseFrom? s.toList := by
  have plain {p : Char → Bool} (inside : ∀ c ∈ s.toList, p c = true)
      (ascii : ∀ {c}, p c = true → isAscii c = true) : AsciiUpTo none s.toList :=
    asciiUpTo_none_iff.2 fun c hc => ascii (inside c hc)
  cases f with
  | uri => exact absurd rfl other
  | time => exact asciiUpTo_of_isTime h
  | dateTime => exact asciiUpTo_of_isDateTime h
  | phone => exact asciiUpTo_of_isPhone h
  | date =>
    obtain ⟨d, whole⟩ := isDateChars_iff.1 h
    refine asciiUpTo_none_iff.2 fun c hc => d.isAscii_of_mem ?_
    rwa [← whole]
  | uuid =>
    refine plain (inUuid_of_isHexGroups h) fun {c} hc => ?_
    rw [inUuid, Bool.or_eq_true, beq_iff_eq] at hc
    rcases hc with digit | rfl
    · exact isAscii_of_hexDigit? digit
    · rfl
  | email =>
    refine asciiUpTo_none_iff.2 fun c hc => ?_
    rcases (of_isEmail h).1 c hc with mailbox | rfl | label | rfl
    · exact isAscii_of_inMailbox mailbox
    · rfl
    · exact isAscii_of_inLabel label
    · rfl
  | hostname =>
    refine asciiUpTo_none_iff.2 fun c hc => ?_
    rcases (of_isHostname h).1 c hc with label | rfl
    · exact isAscii_of_inLabel label
    · rfl
  | ipv4 => exact plain (inIpv4_of_isIpv4Chars h).1 fun hc => isAscii_of_inIpv6 (inIpv6_of_inIpv4 hc)
  | ipv6 => exact plain (of_isIpv6Chars h).1 isAscii_of_inIpv6
  | country => exact plain (length_of_isCountry h).2 isAscii_of_isAsciiLetter
  | currency => exact plain (length_of_isCurrency h).2 isAscii_of_isAsciiLetter

/-- A text of which a format is detected other than a URI is ASCII, but for digits of other scripts: in
times and date-times after the seconds, and in phone numbers after their first digit. A phone number that
is detected is one of E.164 exactly if it has none of them. -/
theorem detect_ascii {d : Detectors} {s : String} {f : TextFormat} (h : d.detect s = some f)
    (other : f ≠ uri) :
    AsciiUpTo f.looseFrom? s.toList ∧
      (f = phone → (IsE164 s.toList ↔ ∀ c ∈ s.toList, isAscii c = true)) := by
  obtain ⟨-, has⟩ := Detectors.detect_eq_some_iff.1 h
  refine ⟨asciiUpTo_of_recognises has other, ?_⟩
  rintro rfl
  rw [isE164_iff]
  exact and_iff_right has

/-- A time with an Arabic three in its fraction. -/
theorem detect_ascii_time :
    Detectors.all.detect "12:00:00.\u0663Z" = some time ∧ time ≠ uri ∧
      AsciiUpTo (some 8) "12:00:00.\u0663Z".toList := by
  have found : Detectors.all.detect "12:00:00.\u0663Z" = some time := by
    rw [Detectors.detect_eq_some_iff]
    decide +kernel
  exact ⟨found, by decide, (detect_ascii found (by decide)).1⟩

/-- A phone number with Arabic digits is detected, and it is not one of E.164. -/
theorem detect_ascii_phone :
    Detectors.all.detect "+1\u0662\u0663\u0664\u0665\u0666\u0667\u0668" = some phone ∧
      ¬ (∀ c ∈ "+1\u0662\u0663\u0664\u0665\u0666\u0667\u0668".toList, isAscii c = true) ∧
      ¬ IsE164 "+1\u0662\u0663\u0664\u0665\u0666\u0667\u0668".toList := by
  have foreign : ¬ ∀ c ∈ "+1\u0662\u0663\u0664\u0665\u0666\u0667\u0668".toList,
      isAscii c = true := by
    rw [← List.all_eq_true]
    decide +kernel
  refine ⟨?_, foreign, fun number => foreign (isE164_iff.1 number).2⟩
  rw [Detectors.detect_eq_some_iff]
  decide +kernel

end TextFormat

end JsonShape
