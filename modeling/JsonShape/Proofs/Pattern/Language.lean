import Mathlib.Computability.Language
import JsonShape.Proofs.Pattern.Fits

/-!
# The language of a pattern

A pattern without conditions on places fits the same characters wherever they stand, and these are its
language (`fits_iff_mem_language`). A sequence of such patterns between the two ends of a text is found
in the texts of the product of their languages, and in no other (`isFoundIn_whole`).
-/

set_option autoImplicit false

namespace JsonShape

namespace Pattern

/-! ## Patterns without conditions -/

/-- Whether a pattern has no conditions on places. -/
def isPlain : Pattern → Bool
  | nothing | one _ => true
  | boundary _ => false
  | both first second => first.isPlain && second.isPlain
  | either first second => first.isPlain && second.isPlain
  | repeated part _ _ => part.isPlain

/-- The texts that a pattern fits, if it has no conditions on places. -/
def language : Pattern → Language Char
  | nothing => 1
  | one set => {cs | ∃ c, cs = [c] ∧ set.contains c = true}
  | boundary _ => 0
  | both first second => first.language * second.language
  | either first second => first.language + second.language
  | repeated part least more =>
    {cs | ∃ n, least ≤ n ∧ (∀ m ∈ more, n ≤ least + m) ∧ cs ∈ part.language ^ n}

theorem mem_language_one {set : CharSet} {cs : List Char} :
    cs ∈ (one set).language ↔ ∃ c, cs = [c] ∧ set.contains c = true :=
  Iff.rfl

theorem language_either (first second : Pattern) :
    (either first second).language = first.language + second.language :=
  rfl

theorem rounds_iff_mem_pow {part : Fitting} {words : Language Char}
    (h : ∀ {before cs after}, part before cs after ↔ cs ∈ words) {n : Nat}
    {before cs after : List Char} : part.rounds n before cs after ↔ cs ∈ words ^ n := by
  induction n generalizing before cs with
  | zero => rw [pow_zero, Language.mem_one, Fitting.rounds]
  | succ n ih =>
    simp only [pow_succ', Language.mem_mul, Fitting.rounds, Fitting.andThen, h, ih]
    constructor
    · rintro ⟨xs, ys, rfl, front, back⟩
      exact ⟨xs, front, ys, back, rfl⟩
    · rintro ⟨xs, front, ys, back, rfl⟩
      exact ⟨xs, ys, rfl, front, back⟩

/-- Without conditions it does not matter what stands before and after. -/
theorem fits_iff_mem_language {p : Pattern} (h : p.isPlain = true) {before cs after : List Char} :
    p.Fits before cs after ↔ cs ∈ p.language := by
  induction p generalizing before cs after with
  | nothing => rfl
  | one set => rfl
  | boundary kind => cases h
  | both first second ihf ihs =>
    rw [isPlain, Bool.and_eq_true] at h
    simp only [Fits, Fitting.andThen, language, Language.mem_mul, ihf h.1, ihs h.2]
    constructor
    · rintro ⟨xs, ys, rfl, front, back⟩
      exact ⟨xs, front, ys, back, rfl⟩
    · rintro ⟨xs, front, ys, back, rfl⟩
      exact ⟨xs, ys, rfl, front, back⟩
  | either first second ihf ihs =>
    rw [isPlain, Bool.and_eq_true] at h
    simp only [Fits, language, Language.mem_add, ihf h.1, ihs h.2]
  | repeated part least more ih =>
    simp only [Fits, rounds_iff_mem_pow (ih h)]
    rfl

/-! ## Whole texts -/

/-- A sequence of patterns from the start of a text to its end. -/
def whole (parts : List Pattern) : Pattern :=
  both (boundary .start) (parts.foldr both (both (boundary .stop) nothing))

theorem fits_foldr_stop_iff {parts : List Pattern} (h : ∀ p ∈ parts, p.isPlain = true)
    {before cs after : List Char} :
    (parts.foldr both (both (boundary .stop) nothing)).Fits before cs after ↔
      cs ∈ (parts.map language).prod ∧ after = [] := by
  induction parts generalizing before cs with
  | nil =>
    simp only [List.foldr_nil, Fits, Fitting.andThen, List.map_nil, List.prod_nil, Language.mem_one]
    constructor
    · rintro ⟨_, _, rfl, ⟨rfl, stop⟩, rfl⟩
      exact ⟨rfl, by simpa [Boundary.holds] using stop⟩
    · rintro ⟨rfl, rfl⟩
      exact ⟨[], [], rfl, ⟨rfl, rfl⟩, rfl⟩
  | cons p parts ih =>
    rw [List.forall_mem_cons] at h
    simp only [List.foldr_cons, Fits, Fitting.andThen, List.map_cons, List.prod_cons,
      Language.mem_mul, fits_iff_mem_language h.1, ih h.2]
    constructor
    · rintro ⟨xs, ys, rfl, front, back, rfl⟩
      exact ⟨⟨xs, front, ys, back, rfl⟩, rfl⟩
    · rintro ⟨⟨xs, front, ys, back, rfl⟩, rfl⟩
      exact ⟨xs, ys, rfl, front, back, rfl⟩

/-- What is found from start to end is the whole text. -/
theorem isFoundIn_whole {parts : List Pattern} (h : ∀ p ∈ parts, p.isPlain = true) {text : String} :
    (whole parts).isFoundIn text = true ↔ text.toList ∈ (parts.map language).prod := by
  rw [isFoundIn_iff, whole]
  simp only [Fits, Fitting.andThen, fits_foldr_stop_iff h]
  constructor
  · rintro ⟨before, _, after, text_eq, _, ys, rfl, ⟨rfl, start⟩, inside, rfl⟩
    obtain rfl : before = [] := by simpa [Boundary.holds] using start
    rw [text_eq]
    simpa using inside
  · intro inside
    exact ⟨[], text.toList, [], by simp, [], text.toList, rfl, ⟨rfl, rfl⟩, inside, rfl⟩

/-! ## Common parts -/

/-- A character that stands for itself. -/
def char (c : Char) : Pattern := one (.single c)

/-- A part exactly so many times. -/
def times (part : Pattern) (count : Nat) : Pattern := repeated part count (some 0)

/-- A part, or nothing. -/
def optional (part : Pattern) : Pattern := repeated part 0 (some 1)

/-- A sequence of patterns. -/
def sequence (parts : List Pattern) : Pattern := parts.foldr both nothing

theorem mem_language_char {c : Char} {cs : List Char} : cs ∈ (char c).language ↔ cs = [c] := by
  constructor
  · rintro ⟨d, rfl, hd⟩
    rw [CharSet.contains_single.1 hd]
  · rintro rfl
    exact ⟨c, rfl, CharSet.contains_single.2 rfl⟩

theorem language_sequence (parts : List Pattern) :
    (sequence parts).language = (parts.map language).prod := by
  induction parts with
  | nil => rfl
  | cons p parts ih =>
    rw [List.map_cons, List.prod_cons, ← ih]
    rfl

theorem language_times (part : Pattern) (count : Nat) :
    (times part count).language = part.language ^ count := by
  ext cs
  constructor
  · rintro ⟨n, low, high, inside⟩
    obtain rfl : n = count := Nat.le_antisymm (high 0 rfl) low
    exact inside
  · intro inside
    exact ⟨count, le_rfl, fun _ _ => Nat.le_add_right _ _, inside⟩

theorem language_optional (part : Pattern) : (optional part).language = 1 + part.language := by
  ext cs
  rw [Language.mem_add]
  constructor
  · rintro ⟨n, -, high, inside⟩
    rcases Nat.le_one_iff_eq_zero_or_eq_one.1 (Nat.zero_add 1 ▸ high 1 rfl) with rfl | rfl
    · exact .inl (pow_zero part.language ▸ inside)
    · exact .inr (pow_one part.language ▸ inside)
  · have few (n : Nat) (hn : n ≤ 1) : ∀ m ∈ some 1, n ≤ 0 + m := by
      rintro _ ⟨⟩
      rwa [Nat.zero_add]
    rintro (none | inside)
    · exact ⟨0, le_rfl, few 0 zero_le_one, (pow_zero part.language).symm ▸ none⟩
    · exact ⟨1, zero_le_one, few 1 le_rfl, (pow_one part.language).symm ▸ inside⟩

theorem mem_language_repeated_none_mul {part : Pattern} {least : Nat} {back : Language Char}
    {cs : List Char} :
    cs ∈ (repeated part least none).language * back ↔
      ∃ n, least ≤ n ∧ cs ∈ part.language ^ n * back := by
  simp only [Language.mem_mul]
  constructor
  · rintro ⟨xs, ⟨n, low, -, front⟩, ys, hys, rfl⟩
    exact ⟨n, low, xs, front, ys, hys, rfl⟩
  · rintro ⟨n, low, xs, front, ys, hys, rfl⟩
    exact ⟨xs, ⟨n, low, nofun, front⟩, ys, hys, rfl⟩

theorem mem_mul_language_repeated_none {part : Pattern} {least : Nat} {front : Language Char}
    {cs : List Char} :
    cs ∈ front * (repeated part least none).language ↔
      ∃ n, least ≤ n ∧ cs ∈ front * part.language ^ n := by
  simp only [Language.mem_mul]
  constructor
  · rintro ⟨xs, hxs, ys, ⟨n, low, -, back⟩, rfl⟩
    exact ⟨n, low, xs, hxs, ys, back, rfl⟩
  · rintro ⟨n, low, xs, hxs, ys, back, rfl⟩
    exact ⟨xs, hxs, ys, ⟨n, low, nofun, back⟩, rfl⟩

theorem mem_language_one_pow {set : CharSet} {n : Nat} {cs : List Char} :
    cs ∈ (one set).language ^ n ↔ cs.length = n ∧ ∀ c ∈ cs, set.contains c = true := by
  induction n generalizing cs with
  | zero =>
    rw [pow_zero, Language.mem_one, List.length_eq_zero_iff]
    constructor
    · rintro rfl
      exact ⟨rfl, List.forall_mem_nil _⟩
    · exact And.left
  | succ n ih =>
    simp only [pow_succ', Language.mem_mul, ih]
    constructor
    · rintro ⟨_, ⟨c, rfl, hc⟩, cs, ⟨rfl, inside⟩, rfl⟩
      exact ⟨by simp, List.forall_mem_cons.2 ⟨hc, inside⟩⟩
    · rintro ⟨length, inside⟩
      obtain ⟨c, cs, rfl⟩ := List.exists_cons_of_length_eq_add_one length
      rw [List.forall_mem_cons] at inside
      exact ⟨[c], ⟨c, rfl, inside.1⟩, cs, ⟨by simpa using length, inside.2⟩, rfl⟩

/-- So many characters of a set. -/
theorem mem_language_repeated_one {set : CharSet} {least : Nat} {more : Option Nat}
    {cs : List Char} :
    cs ∈ (repeated (one set) least more).language ↔
      least ≤ cs.length ∧ (∀ m ∈ more, cs.length ≤ least + m) ∧
        ∀ c ∈ cs, set.contains c = true := by
  constructor
  · rintro ⟨n, low, high, inside⟩
    obtain ⟨rfl, all⟩ := mem_language_one_pow.1 inside
    exact ⟨low, high, all⟩
  · rintro ⟨low, high, inside⟩
    exact ⟨cs.length, low, high, mem_language_one_pow.2 ⟨rfl, inside⟩⟩

theorem mem_language_times_one {set : CharSet} {count : Nat} {cs : List Char} :
    cs ∈ (times (one set) count).language ↔ cs.length = count ∧ ∀ c ∈ cs, set.contains c = true := by
  rw [language_times, mem_language_one_pow]

end Pattern

end JsonShape
