import JsonShape.Text.Ascii

/-!
# ASCII classes

Letters and digits are ASCII characters, hexadecimal digits included.
-/

set_option autoImplicit false

namespace JsonShape

variable {c d : Char}

theorem isAscii_of_le (h : c ≤ d) (hd : isAscii d = true) : isAscii c = true := by
  simp only [isAscii, decide_eq_true_eq] at hd ⊢
  exact Nat.lt_of_le_of_lt h hd

theorem isAscii_of_isAsciiDigit (h : isAsciiDigit c = true) : isAscii c = true := by
  simp only [isAsciiDigit, Bool.and_eq_true, decide_eq_true_eq] at h
  exact isAscii_of_le h.2 rfl

theorem isAscii_of_isAsciiLetter (h : isAsciiLetter c = true) : isAscii c = true := by
  simp only [isAsciiLetter, Bool.or_eq_true, Bool.and_eq_true, decide_eq_true_eq] at h
  rcases h with ⟨-, small⟩ | ⟨-, capital⟩
  · exact isAscii_of_le small rfl
  · exact isAscii_of_le capital rfl

theorem isAscii_of_hexDigit? (h : (hexDigit? c).isSome = true) : isAscii c = true := by
  unfold hexDigit? at h
  split at h
  · next digit => exact isAscii_of_le digit.2 rfl
  · split at h
    · next small => exact isAscii_of_le small.2 rfl
    · split at h
      · next capital => exact isAscii_of_le capital.2 rfl
      · cases h

end JsonShape
