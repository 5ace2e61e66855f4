import Mathlib.Data.List.TakeDrop
import Mathlib.Data.List.TakeWhile
import Mathlib.Data.String.Basic
import JsonShape.Uri

/-!
# The parts of a URI

A text that names a host is cut into `Parts`: controls in front that do not count, a scheme with its colon,
what introduces the authority, an authority that is not empty, the rest, and controls again
(`exists_parts_of_namesHost`). Two slashes introduce the authority under a scheme that is not special; a
special one takes any slashes and backslashes, none at all included.
-/

set_option autoImplicit false

namespace JsonShape

namespace Uri

/-- A letter, and then letters, digits, `+`, `-` and `.`. -/
def IsScheme (scheme : List Char) : Prop :=
  ∃ first more, scheme = first :: more ∧ isAsciiLetter first = true ∧ ∀ c ∈ more, inScheme c = true

/-- The kind of a scheme, in upper or lower case. -/
def kindOf (scheme : List Char) : SchemeKind := schemeKind (scheme.map lowerAscii)

/-- Whether a character ends the authority under a scheme. -/
def endsUnder (scheme : List Char) (c : Char) : Bool := endsAuthority (kindOf scheme != .other) c

/-- What introduces an authority under a kind of scheme. -/
def Introduces : SchemeKind → List Char → Prop
  | .file, slashes => slashes.length = 2 ∧ ∀ c ∈ slashes, isSlash c = true
  | .special, slashes => ∀ c ∈ slashes, isSlash c = true
  | .other, slashes => slashes = ['/', '/']

/-- The parts of a text that names a host. -/
structure Parts where
  before : List Char
  scheme : List Char
  slashes : List Char
  authority : List Char
  rest : List Char
  after : List Char
  /-- What does not count at the ends. -/
  controls : ∀ c ∈ before ++ after, c ≤ ' '
  isScheme : IsScheme scheme
  introduces : Introduces (kindOf scheme) slashes
  authority_ne_nil : authority ≠ []
  /-- The authority goes as far as it can. -/
  inside : ∀ c ∈ authority, endsUnder scheme c = false
  ended : ∀ c ∈ rest.head?, endsUnder scheme c = true

/-- The text of the parts, with the colon after the scheme. -/
def Parts.chars (p : Parts) : List Char :=
  p.before ++ (p.scheme ++ ':' :: (p.slashes ++ (p.authority ++ p.rest))) ++ p.after

theorem Parts.mem_chars_iff {p : Parts} {c : Char} :
    c ∈ p.chars ↔ c ∈ p.before ++ p.after ∨ c ∈ p.scheme ∨ c = ':' ∨ c ∈ p.slashes ∨
      c ∈ p.authority ++ p.rest := by
  simp only [chars, List.mem_append, List.mem_cons]
  tauto

/-- A text that names a host begins with a control or a blank, or with the letter of its scheme. -/
theorem Parts.of_head?_chars (p : Parts) {c : Char} (h : c ∈ p.chars.head?) :
    c ≤ ' ' ∨ isAsciiLetter c = true := by
  cases hb : p.before with
  | nil =>
    obtain ⟨first, more, whole, letter, -⟩ := p.isScheme
    rw [chars, hb, whole] at h
    obtain rfl := Option.some.inj h
    exact .inr letter
  | cons d before =>
    rw [chars, hb] at h
    obtain rfl := Option.some.inj h
    exact .inl (p.controls _ (by simp [hb]))

/-! ## From a text to its parts -/

/-- What is trimmed off a text are controls and blanks. -/
theorem exists_around_trimControls (cs : List Char) :
    ∃ before after, cs = before ++ trimControls cs ++ after ∧ ∀ c ∈ before ++ after, c ≤ ' ' := by
  let inner := cs.dropWhile (· ≤ ' ')
  have control {cs : List Char} {c : Char} (hc : c ∈ cs.takeWhile (· ≤ ' ')) : c ≤ ' ' := by
    have := List.mem_takeWhile_imp (p := fun c : Char => decide (c ≤ ' ')) hc
    exact of_decide_eq_true this
  refine ⟨cs.takeWhile (· ≤ ' '), (inner.reverse.takeWhile (· ≤ ' ')).reverse, ?_, ?_⟩
  · have back : trimControls cs ++ (inner.reverse.takeWhile (· ≤ ' ')).reverse = inner := by
      rw [trimControls, ← List.reverse_append, List.takeWhile_append_dropWhile, List.reverse_reverse]
    rw [List.append_assoc, back, List.takeWhile_append_dropWhile]
  · rw [List.forall_mem_append]
    exact ⟨fun c hc => control hc, fun c hc => control (List.mem_reverse.1 hc)⟩

/-- What names a host under a scheme begins with an authority that is not empty. -/
theorem takeWhile_ne_nil_of_hasAuthority {special : Bool} {cs : List Char}
    (h : hasAuthority special cs = true) : cs.takeWhile (fun c => !endsAuthority special c) ≠ [] := by
  intro none
  rw [hasAuthority, none] at h
  simp [afterUser, cutPort] at h

theorem exists_of_hasFileHost {cs : List Char} (h : hasFileHost cs = true) :
    ∃ slashes rest, cs = slashes ++ rest ∧ Introduces .file slashes ∧
      rest.takeWhile (fun c => !endsAuthority true c) ≠ [] := by
  unfold hasFileHost at h
  split at h
  · next a b rest =>
    rw [List.span_eq_takeWhile_dropWhile] at h
    simp only [Bool.and_eq_true] at h
    obtain ⟨⟨ha, hb⟩, ⟨⟨some, -⟩, -⟩, -⟩ := h
    refine ⟨[a, b], rest, rfl, ⟨rfl, by simp [ha, hb]⟩, fun none => ?_⟩
    rw [none] at some
    cases some
  · cases h

theorem exists_of_scheme? {cs rest : List Char} {kind : SchemeKind}
    (h : scheme? cs = some (kind, rest)) :
    ∃ scheme, cs = scheme ++ ':' :: rest ∧ IsScheme scheme ∧ kindOf scheme = kind := by
  cases cs with
  | nil => cases h
  | cons first cs =>
    rw [scheme?] at h
    split at h
    · next letter =>
      split at h
      · next more rest' cut =>
        obtain ⟨rfl, rfl⟩ := Prod.mk.inj (Option.some.inj h)
        rw [List.span_eq_takeWhile_dropWhile] at cut
        obtain ⟨taken, left⟩ := Prod.mk.inj cut
        have inside : ∀ c ∈ more, inScheme c = true := by
          intro c hc
          rw [← taken] at hc
          exact List.mem_takeWhile_imp hc
        refine ⟨first :: more, ?_, ⟨first, more, rfl, letter, inside⟩, rfl⟩
        rw [List.cons_append, ← taken, ← left, List.takeWhile_append_dropWhile]
      · cases h
    · cases h

theorem exists_parts {cs slashes tail : List Char} {kind : SchemeKind}
    (read : scheme? (trimControls cs) = some (kind, slashes ++ tail))
    (introduces : Introduces kind slashes)
    (named : tail.takeWhile (fun c => !endsAuthority (kind != .other) c) ≠ []) :
    ∃ p : Parts, p.chars = cs := by
  obtain ⟨scheme, whole, isScheme, rfl⟩ := exists_of_scheme? read
  obtain ⟨before, after, around, controls⟩ := exists_around_trimControls cs
  have inside : ∀ c ∈ tail.takeWhile (fun c => !endsUnder scheme c), endsUnder scheme c = false := by
    intro c hc
    have := List.mem_takeWhile_imp (p := fun c => !endsUnder scheme c) hc
    simpa using this
  have ended : ∀ c ∈ (tail.dropWhile fun c => !endsUnder scheme c).head?,
      endsUnder scheme c = true := by
    intro c hc
    have := List.head?_dropWhile_not (fun c => !endsUnder scheme c) tail
    rw [hc] at this
    simpa using this
  let p : Parts := ⟨before, scheme, slashes, tail.takeWhile fun c => !endsUnder scheme c,
    tail.dropWhile fun c => !endsUnder scheme c, after, controls, isScheme, introduces, named, inside,
    ended⟩
  refine ⟨p, ?_⟩
  rw [Parts.chars, List.takeWhile_append_dropWhile, ← whole]
  exact around.symm

/-- A text that names a host has parts. -/
theorem exists_parts_of_namesHost {cs : List Char} (h : namesHost cs = true) :
    ∃ p : Parts, p.chars = cs := by
  rw [namesHost] at h
  split at h
  · next rest read =>
    obtain ⟨slashes, tail, rfl, introduces, named⟩ := exists_of_hasFileHost h
    exact exists_parts read introduces named
  · next rest read =>
    have introduces : Introduces .special (rest.takeWhile isSlash) := fun c hc =>
      List.mem_takeWhile_imp hc
    rw [← List.takeWhile_append_dropWhile (p := isSlash) (l := rest)] at read
    exact exists_parts read introduces (takeWhile_ne_nil_of_hasAuthority h)
  · next rest read =>
    have introduces : Introduces .other ['/', '/'] := rfl
    exact exists_parts read introduces (takeWhile_ne_nil_of_hasAuthority h)
  · cases h

end Uri

end JsonShape
