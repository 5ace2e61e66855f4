import Mathlib.Data.List.TakeWhile
import Mathlib.Data.String.Basic
import JsonShape.Proofs.Text.Digits
import JsonShape.TextFormat.Calendar

/-!
# After the seconds

What follows the seconds of a time is a `Tail`: a fraction and a zone, over a class of digits and of
offsets. A tail that is recognised (`isTimeTail_iff`) may have the digits of any script, and any four of
them as its offset. It is one of ISO 8601 exactly if it is ASCII and its offset stays below a day
(`isoTail_iff`).
-/

set_option autoImplicit false

namespace JsonShape

namespace TextFormat

/-! ## Fractions and zones -/

/-- A fraction of a second, or none: a point and one or more digits of a class. -/
def Fraction (digit : Char → Bool) (cs : List Char) : Prop :=
  cs = [] ∨ ∃ ds, ds ≠ [] ∧ (∀ c ∈ ds, digit c = true) ∧ cs = '.' :: ds

/-- A zone, or none: `Z`, or a sign with the hours and the minutes of an offset, maybe with a colon
between. -/
inductive Zone (offset : List Char → List Char → Prop) : List Char → Prop
  | unsaid : Zone offset []
  | utc {letter : Char} : letter = 'Z' ∨ letter = 'z' → Zone offset [letter]
  | joined {sign : Char} {hours minutes : List Char} : sign = '+' ∨ sign = '-' →
      offset hours minutes → Zone offset (sign :: (hours ++ minutes))
  | parted {sign : Char} {hours minutes : List Char} : sign = '+' ∨ sign = '-' →
      offset hours minutes → Zone offset (sign :: (hours ++ ':' :: minutes))

/-- What follows the seconds. -/
def Tail (digit : Char → Bool) (offset : List Char → List Char → Prop) (cs : List Char) : Prop :=
  ∃ fraction zone, cs = fraction ++ zone ∧ Fraction digit fraction ∧ Zone offset zone

/-- An offset of less than a day, in ASCII digits. -/
def IsoOffset (hours minutes : List Char) : Prop :=
  ∃ h m, h ≤ 23 ∧ m ≤ 59 ∧ hours = padded 2 h ∧ minutes = padded 2 m

/-- An offset of any four digits. -/
def AnyOffset (hours minutes : List Char) : Prop :=
  hours.length = 2 ∧ minutes.length = 2 ∧ ∀ c ∈ hours ++ minutes, isDecimalDigit c = true

/-- What may follow the seconds in ISO 8601. -/
def IsoTail : List Char → Prop := Tail isAsciiDigit IsoOffset

/-- What is recognised after the seconds. -/
def LooseTail : List Char → Prop := Tail isDecimalDigit AnyOffset

theorem AnyOffset.exists_digits {hours minutes : List Char} (h : AnyOffset hours minutes) :
    ∃ a b c d, hours = [a, b] ∧ minutes = [c, d] ∧ isDecimalDigit a = true ∧
      isDecimalDigit b = true ∧ isDecimalDigit c = true ∧ isDecimalDigit d = true := by
  obtain ⟨two, two', digits⟩ := h
  obtain ⟨a, b, rfl⟩ := List.length_eq_two.1 two
  obtain ⟨c, d, rfl⟩ := List.length_eq_two.1 two'
  exact ⟨a, b, c, d, rfl, rfl, by simpa using digits⟩

theorem isZone_iff {cs : List Char} : isZone cs = true ↔ Zone AnyOffset cs := by
  constructor
  · intro h
    unfold isZone at h
    split at h
    · exact .unsaid
    · exact .utc (.inl rfl)
    · exact .utc (.inr rfl)
    · next s a b c d =>
      simp only [Bool.and_eq_true, Bool.or_eq_true, beq_iff_eq, List.all_cons, List.all_nil] at h
      have offset : AnyOffset [a, b] [c, d] := ⟨rfl, rfl, by simp [h.2]⟩
      exact .parted h.1 offset
    · next s a b c d =>
      simp only [Bool.and_eq_true, Bool.or_eq_true, beq_iff_eq, List.all_cons, List.all_nil] at h
      have offset : AnyOffset [a, b] [c, d] := ⟨rfl, rfl, by simp [h.2]⟩
      exact .joined h.1 offset
    · cases h
  · intro h
    cases h with
    | unsaid => rfl
    | utc letter => rcases letter with rfl | rfl <;> rfl
    | joined sign offset =>
      obtain ⟨a, b, c, d, rfl, rfl, digits⟩ := offset.exists_digits
      simp [isZone, sign, digits]
    | parted sign offset =>
      obtain ⟨a, b, c, d, rfl, rfl, digits⟩ := offset.exists_digits
      simp [isZone, sign, digits]

theorem Zone.head? {offset : List Char → List Char → Prop} {cs : List Char} (h : Zone offset cs)
    {c : Char} (hc : c ∈ cs.head?) : c = 'Z' ∨ c = 'z' ∨ c = '+' ∨ c = '-' := by
  cases h with
  | unsaid => cases hc
  | utc letter =>
    cases hc
    exact letter.imp_right .inl
  | joined sign | parted sign =>
    cases hc
    exact .inr (.inr sign)

/-- What is recognised after the seconds, said without the reading. -/
theorem isTimeTail_iff {cs : List Char} : isTimeTail cs = true ↔ LooseTail cs := by
  constructor
  · intro h
    unfold isTimeTail at h
    split at h
    · next cs =>
      split at h
      · cases h
      · next ds zone some cut =>
        rw [List.span_eq_takeWhile_dropWhile] at cut
        obtain ⟨taken, left⟩ := Prod.mk.inj cut
        refine ⟨'.' :: ds, zone, ?_, .inr ⟨ds, ?_, ?_, rfl⟩, isZone_iff.1 h⟩
        · rw [← taken, ← left, List.cons_append, List.takeWhile_append_dropWhile]
        · rintro rfl
          exact some rfl
        · intro c hc
          rw [← taken] at hc
          exact List.mem_takeWhile_imp hc
    · exact ⟨[], cs, rfl, .inl rfl, isZone_iff.1 h⟩
  · rintro ⟨fraction, zone, rfl, rfl | ⟨ds, some, digits, rfl⟩, hz⟩
    · rw [List.nil_append, isTimeTail.eq_def]
      split
      · next rest =>
        -- no zone begins with a point
        have first : '.' = 'Z' ∨ '.' = 'z' ∨ '.' = '+' ∨ '.' = '-' := hz.head? rfl
        exact absurd first (by decide)
      · exact isZone_iff.2 hz
    · have stop : ∀ c ∈ zone.head?, isDecimalDigit c = false := by
        intro c hc
        rcases hz.head? hc with rfl | rfl | rfl | rfl <;> decide
      rw [List.cons_append, isTimeTail, span_append digits stop]
      cases ds with
      | nil => exact absurd rfl some
      | cons d ds => exact isZone_iff.2 hz

/-! ## What a tail must keep to -/

theorem ne_colon_of_isDecimalDigit {c : Char} (h : isDecimalDigit c = true) : c ≠ ':' := by
  rintro rfl
  revert h
  decide

/-- The digits of the offset in a tail, without the colon; none if it has no offset. -/
def offsetDigits (tail : List Char) : List Char :=
  ((tail.dropWhile fun c => c != '+' && c != '-').drop 1).filter (· != ':')

/-- The offset of a tail, if it has one, stays below a day. -/
def OffsetInRange (tail : List Char) : Prop :=
  digitsValue ((offsetDigits tail).take 2) ≤ 23 ∧ digitsValue ((offsetDigits tail).drop 2) ≤ 59

instance (tail : List Char) : Decidable (OffsetInRange tail) := inferInstanceAs (Decidable (_ ∧ _))

theorem isAsciiDigit_iff {c : Char} :
    isAsciiDigit c = true ↔ isDecimalDigit c = true ∧ isAscii c = true := by
  constructor
  · intro h
    refine ⟨isDecimalDigit_of_isDigit (by rwa [← isAsciiDigit_eq_isDigit]), ?_⟩
    obtain ⟨n, small, rfl⟩ := exists_eq_digitChar h
    have check : ∀ n < 10, isAscii (Nat.digitChar n) = true := by decide
    exact check n small
  · rintro ⟨digit, ascii⟩
    have check : ∀ c : Char, c.toNat < 128 → isDecimalDigit c = true → isAsciiDigit c = true :=
      forall_char_lt (by decide +kernel)
    exact check c (of_decide_eq_true ascii) digit

theorem isAscii_of_mem_padded {width n : Nat} {c : Char} (h : c ∈ padded width n) :
    isAscii c = true := (isAsciiDigit_iff.1 (isAsciiDigit_of_mem_padded h)).2

theorem isoOffset_iff {hours minutes : List Char} :
    IsoOffset hours minutes ↔
      AnyOffset hours minutes ∧ (∀ c ∈ hours ++ minutes, isAscii c = true) ∧
        digitsValue hours ≤ 23 ∧ digitsValue minutes ≤ 59 := by
  constructor
  · rintro ⟨h, m, hour, minute, rfl, rfl⟩
    have digits : ∀ c ∈ padded 2 h ++ padded 2 m, isAsciiDigit c = true :=
      List.forall_mem_append.2
        ⟨fun _ => isAsciiDigit_of_mem_padded, fun _ => isAsciiDigit_of_mem_padded⟩
    refine ⟨⟨length_padded 2 h, length_padded 2 m, fun c hc => (isAsciiDigit_iff.1 (digits c hc)).1⟩,
      fun c hc => (isAsciiDigit_iff.1 (digits c hc)).2, ?_, ?_⟩
    · rwa [digitsValue_padded (by omega)]
    · rwa [digitsValue_padded (by omega)]
  · rintro ⟨any, ascii, hour, minute⟩
    obtain ⟨a, b, c, d, rfl, rfl, ha, hb, hc, hd⟩ := any.exists_digits
    have first := padded_two (isAsciiDigit_iff.2 ⟨ha, ascii a (by simp)⟩)
      (isAsciiDigit_iff.2 ⟨hb, ascii b (by simp)⟩)
    have second := padded_two (isAsciiDigit_iff.2 ⟨hc, ascii c (by simp)⟩)
      (isAsciiDigit_iff.2 ⟨hd, ascii d (by simp)⟩)
    exact ⟨_, _, hour, minute, first.symm, second.symm⟩

/-- The sign of an offset is the first one in a tail. -/
theorem offsetDigits_append {fraction : List Char} {digit : Char → Bool} (plain : digit '+' = false)
    (plain' : digit '-' = false) (h : Fraction digit fraction) (zone : List Char) :
    offsetDigits (fraction ++ zone) = offsetDigits zone := by
  have unsigned : ∀ c ∈ fraction, (c != '+' && c != '-') = true := by
    intro c hc
    rw [Bool.and_eq_true, bne_iff_ne, bne_iff_ne]
    rcases h with rfl | ⟨ds, -, digits, rfl⟩
    · cases hc
    · rcases List.mem_cons.1 hc with rfl | hc
      · decide
      · have found := digits c hc
        constructor
        · rintro rfl
          exact absurd (plain.symm.trans found) Bool.false_ne_true
        · rintro rfl
          exact absurd (plain'.symm.trans found) Bool.false_ne_true
  rw [offsetDigits, List.dropWhile_append_of_pos unsigned, offsetDigits]

section
variable {sign : Char} {hours minutes : List Char} (signed : sign = '+' ∨ sign = '-')
  (offset : AnyOffset hours minutes)
include signed offset

theorem offsetDigits_joined : offsetDigits (sign :: (hours ++ minutes)) = hours ++ minutes := by
  obtain ⟨a, b, c, d, rfl, rfl, ha, hb, hc, hd⟩ := offset.exists_digits
  have stop : (sign != '+' && sign != '-') = false := by rcases signed with rfl | rfl <;> rfl
  simp [offsetDigits, stop, ne_colon_of_isDecimalDigit, ha, hb, hc, hd]

theorem offsetDigits_parted :
    offsetDigits (sign :: (hours ++ ':' :: minutes)) = hours ++ minutes := by
  obtain ⟨a, b, c, d, rfl, rfl, ha, hb, hc, hd⟩ := offset.exists_digits
  have stop : (sign != '+' && sign != '-') = false := by rcases signed with rfl | rfl <;> rfl
  simp [offsetDigits, stop, ne_colon_of_isDecimalDigit, ha, hb, hc, hd]

omit signed in
/-- An offset is one of ISO 8601 exactly if it is written in ASCII and stays below a day. -/
theorem isoOffset_iff_of_offsetDigits {zone : List Char} (h : offsetDigits zone = hours ++ minutes) :
    IsoOffset hours minutes ↔ (∀ c ∈ hours ++ minutes, isAscii c = true) ∧ OffsetInRange zone := by
  have first : (hours ++ minutes).take 2 = hours := List.take_left' offset.1
  have second : (hours ++ minutes).drop 2 = minutes := List.drop_left' offset.1
  rw [isoOffset_iff, OffsetInRange, h, first, second]
  exact and_iff_right offset

end

theorem isoZone_iff {zone : List Char} :
    Zone IsoOffset zone ↔
      Zone AnyOffset zone ∧ (∀ c ∈ zone, isAscii c = true) ∧ OffsetInRange zone := by
  have sign_ascii {sign : Char} (signed : sign = '+' ∨ sign = '-') : isAscii sign = true := by
    rcases signed with rfl | rfl <;> rfl
  constructor
  · intro h
    cases h with
    | unsaid => exact ⟨.unsaid, by simp, by decide⟩
    | utc letter =>
      refine ⟨.utc letter, ?_, ?_⟩
      · rcases letter with rfl | rfl <;> simp [isAscii]
      · rcases letter with rfl | rfl <;> decide
    | joined signed offset =>
      have any := (isoOffset_iff.1 offset).1
      obtain ⟨ascii, range⟩ :=
        (isoOffset_iff_of_offsetDigits any (offsetDigits_joined signed any)).1 offset
      exact ⟨.joined signed any, List.forall_mem_cons.2 ⟨sign_ascii signed, ascii⟩, range⟩
    | parted signed offset =>
      have any := (isoOffset_iff.1 offset).1
      obtain ⟨ascii, range⟩ :=
        (isoOffset_iff_of_offsetDigits any (offsetDigits_parted signed any)).1 offset
      rw [List.forall_mem_append] at ascii
      refine ⟨.parted signed any, ?_, range⟩
      rw [List.forall_mem_cons, List.forall_mem_append, List.forall_mem_cons]
      exact ⟨sign_ascii signed, ascii.1, rfl, ascii.2⟩
  · rintro ⟨h, ascii, range⟩
    cases h with
    | unsaid => exact .unsaid
    | utc letter => exact .utc letter
    | joined signed any =>
      have inside := (List.forall_mem_cons.1 ascii).2
      exact .joined signed
        ((isoOffset_iff_of_offsetDigits any (offsetDigits_joined signed any)).2 ⟨inside, range⟩)
    | parted signed any =>
      rw [List.forall_mem_cons, List.forall_mem_append, List.forall_mem_cons] at ascii
      have inside := List.forall_mem_append.2 ⟨ascii.2.1, ascii.2.2.2⟩
      exact .parted signed
        ((isoOffset_iff_of_offsetDigits any (offsetDigits_parted signed any)).2 ⟨inside, range⟩)

theorem isoFraction_iff {fraction : List Char} :
    Fraction isAsciiDigit fraction ↔
      Fraction isDecimalDigit fraction ∧ ∀ c ∈ fraction, isAscii c = true := by
  constructor
  · rintro (rfl | ⟨ds, some, digits, rfl⟩)
    · exact ⟨.inl rfl, by simp⟩
    · refine ⟨.inr ⟨ds, some, fun c hc => (isAsciiDigit_iff.1 (digits c hc)).1, rfl⟩, ?_⟩
      exact List.forall_mem_cons.2 ⟨rfl, fun c hc => (isAsciiDigit_iff.1 (digits c hc)).2⟩
  · rintro ⟨rfl | ⟨ds, some, digits, rfl⟩, ascii⟩
    · exact .inl rfl
    · rw [List.forall_mem_cons] at ascii
      exact .inr ⟨ds, some, fun c hc => isAsciiDigit_iff.2 ⟨digits c hc, ascii.2 c hc⟩, rfl⟩

/-- A tail that is recognised is one of ISO 8601 exactly if it is ASCII and its offset stays below a
day. -/
theorem isoTail_iff {tail : List Char} :
    IsoTail tail ↔ LooseTail tail ∧ (∀ c ∈ tail, isAscii c = true) ∧ OffsetInRange tail := by
  have range_iff {fraction : List Char} (h : Fraction isDecimalDigit fraction) (zone : List Char) :
      OffsetInRange (fraction ++ zone) ↔ OffsetInRange zone := by
    rw [OffsetInRange, offsetDigits_append (by decide) (by decide) h, OffsetInRange]
  constructor
  · rintro ⟨fraction, zone, rfl, hf, hz⟩
    rw [isoFraction_iff] at hf
    rw [isoZone_iff] at hz
    rw [range_iff hf.1, List.forall_mem_append]
    exact ⟨⟨fraction, zone, rfl, hf.1, hz.1⟩, ⟨hf.2, hz.2.1⟩, hz.2.2⟩
  · rintro ⟨⟨fraction, zone, rfl, hf, hz⟩, ascii, range⟩
    rw [range_iff hf] at range
    rw [List.forall_mem_append] at ascii
    exact ⟨fraction, zone, rfl, isoFraction_iff.2 ⟨hf, ascii.1⟩, isoZone_iff.2 ⟨hz, ascii.2, range⟩⟩

end TextFormat

end JsonShape
