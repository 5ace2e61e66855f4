import Mathlib.Data.List.Induction
import Mathlib.Data.List.TakeDrop
import Mathlib.Tactic.Ring
import JsonShape.Text.Ascii

/-!
# Decimal digits

The digits of a natural number are ASCII digits, they spell that number (`digitsValue_toDigits`), and
the first one is not a needless zero (`head?_toDigits`). Where there are as many digits as a width asks
for, zeros in front included, digits and the numbers that fit are the same (`padded_digitsValue`,
`digitsValue_padded`).
-/

set_option autoImplicit false

namespace JsonShape

/-- What holds of characters with small codes can be checked one by one. -/
theorem forall_char_lt {bound : Nat} {P : Char → Prop} (check : ∀ n < bound, P (Char.ofNat n)) :
    ∀ c : Char, c.toNat < bound → P c := by
  intro c hc
  have found := check c.toNat hc
  rwa [Char.ofNat_toNat] at found

theorem isAsciiDigit_eq_isDigit (c : Char) : isAsciiDigit c = c.isDigit := by
  simp [isAsciiDigit, Char.isDigit, Char.le_def]

theorem isAsciiDigit_of_mem_toDigits {n : Nat} {c : Char} (h : c ∈ Nat.toDigits 10 n) :
    isAsciiDigit c = true := by
  rw [isAsciiDigit_eq_isDigit]
  exact Nat.isDigit_of_mem_toDigits (by decide) (by decide) h

theorem digitsValue_eq_ofDigitChars (ds : List Char) : digitsValue ds = Nat.ofDigitChars 10 ds 0 := by
  rw [Nat.ofDigitChars_eq_foldl]
  rfl

theorem digitsValue_toDigits (n : Nat) : digitsValue (Nat.toDigits 10 n) = n := by
  rw [digitsValue_eq_ofDigitChars, Nat.ofDigitChars_ten_toDigits]

theorem digitsValue_append_zeros (ds : List Char) (k : Nat) :
    digitsValue (ds ++ List.replicate k '0') = digitsValue ds * 10 ^ k := by
  rw [digitsValue_eq_ofDigitChars, digitsValue_eq_ofDigitChars, Nat.ofDigitChars_append,
    Nat.ofDigitChars_replicate_zero, Nat.mul_comm]

theorem digitsValue_zeros_append (ds : List Char) (k : Nat) :
    digitsValue (List.replicate k '0' ++ ds) = digitsValue ds := by
  rw [digitsValue_eq_ofDigitChars, digitsValue_eq_ofDigitChars, Nat.ofDigitChars_append,
    Nat.ofDigitChars_replicate_zero, Nat.mul_zero]

/-- Only zero is spelled with a zero in front. -/
theorem head?_toDigits {n : Nat} (h : 0 < n) : (Nat.toDigits 10 n).head? ≠ some '0' := by
  induction n using Nat.strongRecOn with
  | ind n ih =>
    rw [Nat.toDigits_eq_if (by decide)]
    split
    · rw [List.head?_cons, ne_eq, Option.some.injEq, Nat.digitChar_eq_zero]
      omega
    · have first := ih (n / 10) (by omega) (by omega)
      have some := List.isSome_head?.2 (Nat.toDigits_ne_nil (n := n / 10) (b := 10))
      rwa [List.head?_append, Option.or_of_isSome some]

/-- The characters of a class at the front of a text, where something else follows. -/
theorem span_append {p : Char → Bool} {ds rest : List Char} (h : ∀ c ∈ ds, p c = true)
    (stop : ∀ c ∈ rest.head?, p c = false) : (ds ++ rest).span p = (ds, rest) := by
  induction ds with
  | nil =>
    cases rest with
    | nil => rfl
    | cons c rest => simp [List.span_eq_takeWhile_dropWhile, stop c rfl]
  | cons c ds ih =>
    rw [List.forall_mem_cons] at h
    have := ih h.2
    rw [List.span_eq_takeWhile_dropWhile, Prod.mk.injEq] at this ⊢
    simp [h.1, this.1, this.2]

/-! ## Numbers of a fixed width -/

/-- The last digits of a number, zeros in front where it has fewer. -/
def padded : (width n : Nat) → List Char
  | 0, _ => []
  | width + 1, n => padded width (n / 10) ++ [Nat.digitChar (n % 10)]

theorem length_padded (width n : Nat) : (padded width n).length = width := by
  induction width generalizing n with
  | zero => rfl
  | succ width ih => rw [padded, List.length_append, ih, List.length_singleton]

theorem isAsciiDigit_digitChar : ∀ n < 10, isAsciiDigit (Nat.digitChar n) = true := by decide

theorem digitValue_digitChar : ∀ n < 10, digitValue (Nat.digitChar n) = n := by decide

theorem exists_eq_digitChar {c : Char} (h : isAsciiDigit c = true) :
    ∃ n < 10, c = Nat.digitChar n := by
  have check : ∀ c : Char, c.toNat < 58 → isAsciiDigit c = true → ∃ n < 10, c = Nat.digitChar n :=
    forall_char_lt (by decide)
  have bound : c.toNat < 58 := by
    rw [isAsciiDigit, Bool.and_eq_true, decide_eq_true_eq, decide_eq_true_eq] at h
    exact Nat.lt_succ_of_le h.2
  exact check c bound h

theorem isAsciiDigit_of_mem_padded {width n : Nat} {c : Char} (h : c ∈ padded width n) :
    isAsciiDigit c = true := by
  induction width generalizing n with
  | zero => cases h
  | succ width ih =>
    rw [padded, List.mem_append, List.mem_singleton] at h
    rcases h with h | rfl
    · exact ih h
    · exact isAsciiDigit_digitChar _ (Nat.mod_lt n (by decide))

theorem digitsValue_append_singleton (ds : List Char) (c : Char) :
    digitsValue (ds ++ [c]) = 10 * digitsValue ds + digitValue c := List.foldl_append

/-- A number that fits is spelled by its digits. -/
theorem digitsValue_padded {width n : Nat} (h : n < 10 ^ width) : digitsValue (padded width n) = n := by
  induction width generalizing n with
  | zero =>
    rw [Nat.pow_zero, Nat.lt_one_iff] at h
    rw [h]
    rfl
  | succ width ih =>
    have inner : n / 10 < 10 ^ width := by
      rw [Nat.pow_succ] at h
      omega
    rw [padded, digitsValue_append_singleton, ih inner,
      digitValue_digitChar _ (Nat.mod_lt n (by decide))]
    omega

/-- Digits are those of the number that they spell. -/
theorem padded_digitsValue {ds : List Char} (h : ∀ c ∈ ds, isAsciiDigit c = true) :
    padded ds.length (digitsValue ds) = ds := by
  induction ds using List.reverseRecOn with
  | nil => rfl
  | append_singleton ds c ih =>
    rw [List.forall_mem_append, List.forall_mem_singleton] at h
    obtain ⟨d, small, rfl⟩ := exists_eq_digitChar h.2
    have last : (10 * digitsValue ds + d) % 10 = d := by omega
    have front : (10 * digitsValue ds + d) / 10 = digitsValue ds := by omega
    rw [digitsValue_append_singleton, digitValue_digitChar d small, List.length_append,
      List.length_singleton, padded, last, front, ih h.1]

/-- Digits spell a number that has no more of them. -/
theorem digitsValue_lt {ds : List Char} (h : ∀ c ∈ ds, isAsciiDigit c = true) :
    digitsValue ds < 10 ^ ds.length := by
  induction ds using List.reverseRecOn with
  | nil => decide
  | append_singleton ds c ih =>
    rw [List.forall_mem_append, List.forall_mem_singleton] at h
    obtain ⟨d, small, rfl⟩ := exists_eq_digitChar h.2
    have := ih h.1
    rw [digitsValue_append_singleton, digitValue_digitChar d small, List.length_append,
      List.length_singleton, Nat.pow_succ]
    omega

theorem padded_two {a b : Char} (ha : isAsciiDigit a = true) (hb : isAsciiDigit b = true) :
    padded 2 (digitsValue [a, b]) = [a, b] := by
  have digits : ∀ x ∈ [a, b], isAsciiDigit x = true := by simp [ha, hb]
  exact padded_digitsValue digits

theorem padded_four {a b c d : Char} (ha : isAsciiDigit a = true) (hb : isAsciiDigit b = true)
    (hc : isAsciiDigit c = true) (hd : isAsciiDigit d = true) :
    padded 4 (digitsValue [a, b, c, d]) = [a, b, c, d] ∧ digitsValue [a, b, c, d] ≤ 9999 := by
  have digits : ∀ x ∈ [a, b, c, d], isAsciiDigit x = true := by simp [ha, hb, hc, hd]
  have bound : digitsValue [a, b, c, d] < 10 ^ 4 := digitsValue_lt digits
  exact ⟨padded_digitsValue digits, by omega⟩

/-- The two characters that a number is written with. -/
theorem exists_padded_two {n : Nat} (h : n < 100) :
    ∃ a b, padded 2 n = [a, b] ∧ isAsciiDigit a = true ∧ isAsciiDigit b = true ∧
      digitsValue [a, b] = n := by
  have two : padded 2 n = [_, _] := rfl
  have digits : ∀ c ∈ padded 2 n, isAsciiDigit c = true := fun _ => isAsciiDigit_of_mem_padded
  have value : digitsValue (padded 2 n) = n := digitsValue_padded (by omega)
  rw [two] at digits value
  exact ⟨_, _, two, digits _ (by simp), digits _ (by simp), value⟩

/-- The four characters that a number is written with. -/
theorem exists_padded_four {n : Nat} (h : n ≤ 9999) :
    ∃ a b c d, padded 4 n = [a, b, c, d] ∧ (∀ x ∈ [a, b, c, d], isAsciiDigit x = true) ∧
      digitsValue [a, b, c, d] = n := by
  have four : padded 4 n = [_, _, _, _] := rfl
  have digits : ∀ c ∈ padded 4 n, isAsciiDigit c = true := fun _ => isAsciiDigit_of_mem_padded
  have value : digitsValue (padded 4 n) = n := digitsValue_padded (by omega)
  rw [four] at digits value
  exact ⟨_, _, _, _, four, digits, value⟩

end JsonShape
