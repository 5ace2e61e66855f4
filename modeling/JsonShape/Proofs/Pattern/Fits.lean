import Mathlib.Data.Nat.Basic
import Mathlib.Order.Basic
import JsonShape.Pattern

/-!
# What a pattern fits

A pattern fits characters that stand between others, and only the conditions on places look at those
(`Pattern.Fits`). The places that it reaches in a text are the ends of what it fits there
(`mem_ends_iff`), so a pattern is found in a text exactly if it fits a part of it (`isFoundIn_iff`).

The rounds of a repeated part are cut short at one more than the text has characters. From there on a
round more or less makes no difference, since one of them is idle (`reaches_succ_iff`).
-/

set_option autoImplicit false

namespace JsonShape

namespace Pattern

/-! ## From place to place -/

/-- Whether a place is reached from another in so many steps. -/
def Reaches (step : Nat → List Nat) : (count : Nat) → Nat → Nat → Prop
  | 0, i, j => i = j
  | count + 1, i, j => ∃ k ∈ step i, Reaches step count k j

section
variable {step : Nat → List Nat}

theorem reaches_add_iff {a b i j : Nat} :
    Reaches step (a + b) i j ↔ ∃ k, Reaches step a i k ∧ Reaches step b k j := by
  induction a generalizing i with
  | zero => simp [Reaches]
  | succ a ih =>
    rw [Nat.add_right_comm]
    simp only [Reaches, ih]
    constructor
    · rintro ⟨l, first, k, more, rest⟩
      exact ⟨k, ⟨l, first, more⟩, rest⟩
    · rintro ⟨k, ⟨l, first, more⟩, rest⟩
      exact ⟨l, first, k, more, rest⟩

theorem mem_reached_iff {count : Nat} {places : List Nat} {j : Nat} :
    j ∈ reached step count places ↔ ∃ i ∈ places, Reaches step count i j := by
  induction count generalizing places with
  | zero => simp [reached, Reaches]
  | succ count ih =>
    simp only [reached, ih, List.mem_eraseDups, List.mem_flatMap, Reaches]
    constructor
    · rintro ⟨k, ⟨i, hi, hk⟩, more⟩
      exact ⟨i, hi, k, hk, more⟩
    · rintro ⟨i, hi, k, hk, more⟩
      exact ⟨k, ⟨i, hi, hk⟩, more⟩

theorem mem_reachedWithin_iff {count : Nat} {places : List Nat} {j : Nat} :
    j ∈ reachedWithin step count places ↔ ∃ n ≤ count, ∃ i ∈ places, Reaches step n i j := by
  induction count generalizing places with
  | zero => simp [reachedWithin, Reaches]
  | succ count ih =>
    simp only [reachedWithin, List.mem_append, ih, List.mem_eraseDups, List.mem_flatMap]
    constructor
    · rintro (here | ⟨n, le, k, ⟨i, hi, hk⟩, more⟩)
      · exact ⟨0, Nat.zero_le _, j, here, rfl⟩
      · exact ⟨n + 1, Nat.succ_le_succ le, i, hi, k, hk, more⟩
    · rintro ⟨n, le, i, hi, way⟩
      cases n with
      | zero => exact .inl (way ▸ hi)
      | succ n =>
        obtain ⟨k, hk, more⟩ := way
        exact .inr ⟨n, Nat.le_of_succ_le_succ le, k, ⟨i, hi, hk⟩, more⟩

/-! ### Steps within a text -/

variable {size : Nat} (within : ∀ i ≤ size, ∀ j ∈ step i, i ≤ j ∧ j ≤ size)
include within

theorem Reaches.between {count i j : Nat} (hi : i ≤ size) (h : Reaches step count i j) :
    i ≤ j ∧ j ≤ size := by
  induction count generalizing i with
  | zero => exact ⟨h.le, h ▸ hi⟩
  | succ count ih =>
    obtain ⟨k, hk, more⟩ := h
    obtain ⟨le, inside⟩ := within i hi k hk
    exact ⟨le.trans (ih inside more).1, (ih inside more).2⟩

/-- Among more steps than there is way to go, one is idle: it can be left out, or made twice. -/
theorem reaches_succ_iff {count i j : Nat} (hi : i ≤ size) (far : j - i < count) :
    Reaches step (count + 1) i j ↔ Reaches step count i j := by
  induction count generalizing i with
  | zero => exact absurd far (Nat.not_lt_zero _)
  | succ count ih =>
    constructor
    · rintro ⟨k, hk, more⟩
      obtain ⟨le, inside⟩ := within i hi k hk
      rcases le.eq_or_lt with rfl | lt
      · exact more
      · have ahead := (more.between within inside).1
        exact ⟨k, hk, (ih inside (by omega)).1 more⟩
    · rintro ⟨k, hk, more⟩
      obtain ⟨le, inside⟩ := within i hi k hk
      rcases le.eq_or_lt with rfl | lt
      · exact ⟨i, hk, i, hk, more⟩
      · have ahead := (more.between within inside).1
        exact ⟨k, hk, (ih inside (by omega)).2 more⟩

theorem reaches_add_iff_of_far {count i j : Nat} (hi : i ≤ size) (far : j - i < count) (n : Nat) :
    Reaches step (count + n) i j ↔ Reaches step count i j := by
  induction n with
  | zero => rfl
  | succ n ih => rw [← Nat.add_assoc, reaches_succ_iff within hi (by omega), ih]

/-- More rounds than the text has characters need not be made. -/
theorem reaches_min_iff {count i j : Nat} (hi : i ≤ size) :
    Reaches step (min count (size + 1)) i j ↔ Reaches step count i j := by
  rcases Nat.le_total count (size + 1) with le | le
  · rw [Nat.min_eq_left le]
  · rw [Nat.min_eq_right le]
    obtain ⟨n, rfl⟩ := Nat.exists_eq_add_of_le le
    by_cases hj : j ≤ size
    · exact (reaches_add_iff_of_far within hi (by omega) n).symm
    · exact ⟨fun h => absurd (h.between within hi).2 hj, fun h => absurd (h.between within hi).2 hj⟩

/-- The rounds of a repeated part. -/
theorem mem_reachedWithin_reached_iff {least : Nat} {more : Option Nat} {i j : Nat} (hi : i ≤ size) :
    j ∈ reachedWithin step (min (more.getD (size + 1)) (size + 1))
        (reached step (min least (size + 1)) [i]) ↔
      ∃ n, least ≤ n ∧ (∀ m ∈ more, n ≤ least + m) ∧ Reaches step n i j := by
  simp only [mem_reachedWithin_iff, mem_reached_iff, List.mem_singleton, exists_eq_left,
    reaches_min_iff within hi]
  constructor
  · rintro ⟨n, le, k, first, rest⟩
    refine ⟨least + n, Nat.le_add_right _ _, fun m hm => ?_, reaches_add_iff.2 ⟨k, first, rest⟩⟩
    obtain rfl : more = some m := hm
    exact Nat.add_le_add_left (le.trans (Nat.min_le_left _ _)) _
  · rintro ⟨n, le, few, way⟩
    obtain ⟨m, rfl⟩ := Nat.exists_eq_add_of_le le
    obtain ⟨k, first, rest⟩ := reaches_add_iff.1 way
    have inside := (first.between within hi).2
    refine ⟨min m (size + 1), ?_, k, first, (reaches_min_iff within inside).2 rest⟩
    cases more with
    | none => exact Nat.le_min.2 ⟨Nat.min_le_right _ _, Nat.min_le_right _ _⟩
    | some most =>
      have := few most rfl
      rw [Option.getD_some]
      omega

end

/-! ## Characters between others -/

/-- A relation to characters, given those before and those after them. -/
abbrev Fitting := (before cs after : List Char) → Prop

/-- To fit two parts, one after the other. -/
def Fitting.andThen (first second : Fitting) : Fitting := fun before cs after =>
  ∃ xs ys, cs = xs ++ ys ∧ first before xs (ys ++ after) ∧ second (before ++ xs) ys after

/-- To fit so many parts, one after the other. -/
def Fitting.rounds (part : Fitting) : (count : Nat) → Fitting
  | 0 => fun _ cs _ => cs = []
  | count + 1 => part.andThen (part.rounds count)

/-- Whether a pattern fits characters, with others before and after them. -/
def Fits : Pattern → Fitting
  | nothing => fun _ cs _ => cs = []
  | one set => fun _ cs _ => ∃ c, cs = [c] ∧ set.contains c = true
  | boundary kind => fun before cs after =>
    cs = [] ∧ kind.holds before.getLast? after.head? = true
  | both first second => Fitting.andThen first.Fits second.Fits
  | either first second => fun before cs after =>
    first.Fits before cs after ∨ second.Fits before cs after
  | repeated part least more => fun before cs after =>
    ∃ n, least ≤ n ∧ (∀ m ∈ more, n ≤ least + m) ∧ Fitting.rounds part.Fits n before cs after

/-- Whether what fits after some characters ends at a place, `rest` being all that follows them. -/
def Fitting.EndsAt (fits : Fitting) (before rest : List Char) (j : Nat) : Prop :=
  ∃ cs after, rest = cs ++ after ∧ j = before.length + cs.length ∧ fits before cs after

theorem Fitting.endsAt_andThen_iff {first second : Fitting} {before rest : List Char} {j : Nat}
    (reach : Nat → Prop)
    (h : ∀ xs after, rest = xs ++ after →
      (reach (before.length + xs.length) ↔ second.EndsAt (before ++ xs) after j)) :
    (first.andThen second).EndsAt before rest j ↔
      ∃ k, first.EndsAt before rest k ∧ reach k := by
  constructor
  · rintro ⟨_, after, rfl, rfl, xs, ys, rfl, front, back⟩
    have cut : xs ++ ys ++ after = xs ++ (ys ++ after) := List.append_assoc ..
    refine ⟨before.length + xs.length, ⟨xs, ys ++ after, cut, rfl, front⟩, (h _ _ cut).2 ?_⟩
    exact ⟨ys, after, rfl, by simp [Nat.add_assoc], back⟩
  · rintro ⟨_, ⟨xs, after, rfl, rfl, front⟩, more⟩
    obtain ⟨ys, after, rfl, rfl, back⟩ := (h xs after rfl).1 more
    exact ⟨xs ++ ys, after, by simp, by simp [Nat.add_assoc], xs, ys, rfl, front, back⟩

/-! ## The places that a pattern reaches -/

theorem exists_cut {text : List Char} {i : Nat} (hi : i ≤ text.length) :
    ∃ before rest, text = before ++ rest ∧ before.length = i :=
  ⟨text.take i, text.drop i, (List.take_append_drop i text).symm, List.length_take_of_le hi⟩

theorem last_eq_getElem? (before rest : List Char) :
    (if before.length = 0 then none else (before ++ rest)[before.length - 1]?) =
      before.getLast? := by
  cases before with
  | nil => rfl
  | cons c before =>
    rw [if_neg (by simp), List.getElem?_append_left (by simp), List.getLast?_eq_getElem?]

/-- Whether a step leads from each place of a text to the ends of what fits there. -/
def Fitting.Describes (fits : Fitting) (text : List Char) (step : Nat → List Nat) : Prop :=
  ∀ before rest, text = before ++ rest → ∀ j, j ∈ step before.length ↔ fits.EndsAt before rest j

namespace Fitting.Describes
variable {part : Fitting} {text : List Char} {step : Nat → List Nat} (h : part.Describes text step)
include h

theorem between {i j : Nat} (hi : i ≤ text.length) (hj : j ∈ step i) : i ≤ j ∧ j ≤ text.length := by
  obtain ⟨before, rest, rfl, rfl⟩ := exists_cut hi
  obtain ⟨cs, after, rfl, rfl, -⟩ := (h before rest rfl j).1 hj
  simp only [List.length_append]
  omega

theorem reaches_iff {count j : Nat} {before rest : List Char} (whole : text = before ++ rest) :
    Reaches step count before.length j ↔ (part.rounds count).EndsAt before rest j := by
  induction count generalizing before rest with
  | zero =>
    constructor
    · rintro rfl
      exact ⟨[], rest, rfl, rfl, rfl⟩
    · rintro ⟨_, _, -, rfl, rfl⟩
      rfl
  | succ count ih =>
    have further (xs after : List Char) (cut : rest = xs ++ after) :
        Reaches step count (before.length + xs.length) j ↔
          (part.rounds count).EndsAt (before ++ xs) after j := by
      rw [← List.length_append]
      exact ih (by rw [whole, cut, List.append_assoc])
    rw [Fitting.rounds, Fitting.endsAt_andThen_iff (Reaches step count · j) further]
    simp only [Reaches, h before rest whole]

end Fitting.Describes

/-- A pattern reaches the ends of what it fits. -/
theorem mem_ends_iff (p : Pattern) {before rest : List Char} {j : Nat} :
    j ∈ p.ends (before ++ rest).toArray before.length ↔ Fitting.EndsAt p.Fits before rest j := by
  induction p generalizing before rest j with
  | nothing =>
    simp only [ends, List.mem_singleton, Fits, Fitting.EndsAt]
    constructor
    · rintro rfl
      exact ⟨[], rest, rfl, rfl, rfl⟩
    · rintro ⟨_, _, -, rfl, rfl⟩
      rfl
  | one set =>
    have next : (before ++ rest)[before.length]? = rest.head? := by
      rw [List.getElem?_append_right le_rfl, Nat.sub_self, List.head?_eq_getElem?]
    simp only [ends, Fits, Fitting.EndsAt, List.getElem?_toArray, next]
    constructor
    · intro hj
      cases rest with
      | nil => simp at hj
      | cons c rest =>
        split at hj
        · next found => exact ⟨[c], rest, rfl, List.mem_singleton.1 hj, c, rfl, found⟩
        · cases hj
    · rintro ⟨_, after, rfl, rfl, c, rfl, hc⟩
      simp [hc]
  | boundary kind =>
    have next : (before ++ rest)[before.length]? = rest.head? := by
      rw [List.getElem?_append_right le_rfl, Nat.sub_self, List.head?_eq_getElem?]
    simp only [ends, Fits, Fitting.EndsAt, List.getElem?_toArray, next, last_eq_getElem?]
    constructor
    · intro hj
      split at hj
      · next holds =>
        exact ⟨[], rest, rfl, List.mem_singleton.1 hj, rfl, holds⟩
      · cases hj
    · rintro ⟨_, after, rfl, rfl, rfl, holds⟩
      simpa using holds
  | both first second ihf ihs =>
    have further (xs after : List Char) (cut : rest = xs ++ after) :
        j ∈ ends (before ++ rest).toArray second (before.length + xs.length) ↔
          second.Fits.EndsAt (before ++ xs) after j := by
      rw [cut, ← List.append_assoc, ← List.length_append]
      exact ihs
    rw [ends, List.mem_eraseDups, List.mem_flatMap, Fits,
      Fitting.endsAt_andThen_iff (j ∈ ends (before ++ rest).toArray second ·) further]
    simp only [ihf]
  | either first second ihf ihs =>
    rw [ends, List.mem_eraseDups, List.mem_append, ihf, ihs]
    simp only [Fits, Fitting.EndsAt]
    constructor
    · rintro (⟨cs, after, cut, hj, fits⟩ | ⟨cs, after, cut, hj, fits⟩)
      · exact ⟨cs, after, cut, hj, .inl fits⟩
      · exact ⟨cs, after, cut, hj, .inr fits⟩
    · rintro ⟨cs, after, cut, hj, fits | fits⟩
      · exact .inl ⟨cs, after, cut, hj, fits⟩
      · exact .inr ⟨cs, after, cut, hj, fits⟩
  | repeated part least more ih =>
    have step : Fitting.Describes part.Fits (before ++ rest) (ends (before ++ rest).toArray part) := by
      intro front back whole j
      rw [whole]
      exact ih
    have start : before.length ≤ (before ++ rest).length := by simp
    rw [ends, List.mem_eraseDups, List.size_toArray,
      mem_reachedWithin_reached_iff (fun _ hi _ => step.between hi) start]
    simp only [step.reaches_iff rfl, Fits, Fitting.EndsAt]
    constructor
    · rintro ⟨n, least, most, cs, after, cut, hj, fits⟩
      exact ⟨cs, after, cut, hj, n, least, most, fits⟩
    · rintro ⟨cs, after, cut, hj, n, least, most, fits⟩
      exact ⟨n, least, most, cs, after, cut, hj, fits⟩

/-- A pattern is found in a text if it fits a part of it. -/
theorem isFoundIn_iff {p : Pattern} {text : String} :
    p.isFoundIn text = true ↔
      ∃ before cs after, text.toList = before ++ (cs ++ after) ∧ p.Fits before cs after := by
  simp only [isFoundIn, List.any_eq_true, List.mem_range, List.size_toArray, Bool.not_eq_true',
    List.isEmpty_eq_false_iff_exists_mem]
  constructor
  · rintro ⟨i, hi, j, hj⟩
    obtain ⟨before, rest, whole, rfl⟩ := exists_cut (Nat.le_of_lt_succ hi)
    rw [whole] at hj
    obtain ⟨cs, after, rfl, -, fits⟩ := (mem_ends_iff p).1 hj
    exact ⟨before, cs, after, whole, fits⟩
  · rintro ⟨before, cs, after, whole, fits⟩
    have inside : before.length < text.toList.length + 1 := by
      rw [whole, List.length_append]
      omega
    refine ⟨before.length, inside, before.length + cs.length, ?_⟩
    rw [whole]
    exact (mem_ends_iff p).2 ⟨cs, after, rfl, rfl, fits⟩

end Pattern

end JsonShape
