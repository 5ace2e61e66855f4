import Mathlib.Data.String.Basic
import JsonShape.Proofs.Text.Ascii
import JsonShape.Proofs.Text.Digits
import JsonShape.Proofs.TextFormat.Candidate
import JsonShape.Proofs.Uri.Parts

/-!
# What stands between a scheme and its authority

What is detected as a URI has the `Parts` of a text that names a host. Under a special scheme any slashes and
backslashes introduce the authority, and controls in front do not count. So the authority need not be
written after `://` (`detect_uri`, `detect_uri_slashless`), and this says exactly when it is
(`Parts.hasWrittenAuthority_iff`).
-/

set_option autoImplicit false

namespace JsonShape

/-- Whether a character is a control character, of ASCII or of Latin-1. -/
def isControl (c : Char) : Bool := c.toNat < 0x20 || (0x7f ≤ c.toNat && c.toNat ≤ 0x9f)

namespace Uri

/-- A scheme, `://`, an authority that is not empty, and whatever follows. -/
def HasWrittenAuthority (cs : List Char) : Prop :=
  ∃ scheme authority rest, cs = scheme ++ ':' :: '/' :: '/' :: (authority ++ rest) ∧
    IsScheme scheme ∧ authority ≠ [] ∧ ∀ c ∈ authority, endsUnder scheme c = false

theorem IsScheme.colon_not_mem {scheme : List Char} (h : IsScheme scheme) : ':' ∉ scheme := by
  obtain ⟨first, more, rfl, letter, inside⟩ := h
  rw [List.mem_cons, not_or]
  constructor
  · rintro rfl
    revert letter
    decide
  · exact not_mem_of_all inside (by decide)

/-- A colon ends a scheme, so it is found in one way only. -/
theorem IsScheme.unique {scheme scheme' rest rest' : List Char} (h : IsScheme scheme)
    (h' : IsScheme scheme') (same : scheme ++ ':' :: rest = scheme' ++ ':' :: rest') :
    scheme = scheme' ∧ rest = rest' := by
  have cut {front back : List Char} (hf : ':' ∉ front) :
      (front ++ ':' :: back).span (· != ':') = (front, ':' :: back) := by
    refine span_append (fun c hc => ?_) (by simp)
    rw [bne_iff_ne]
    rintro rfl
    exact hf hc
  have both : (scheme ++ ':' :: rest).span (· != ':') = (scheme, ':' :: rest) := cut h.colon_not_mem
  rw [same, cut h'.colon_not_mem] at both
  obtain ⟨front, back⟩ := Prod.mk.inj both
  exact ⟨front.symm, (List.cons.inj back).2.symm⟩

/-! ## An authority that is written -/

/-- Characters of an authority are no slashes, under a special scheme of either kind. -/
theorem not_isSlash_of_endsAuthority {c : Char} (h : endsAuthority true c = false) :
    isSlash c = false := by
  simp only [endsAuthority, Bool.or_eq_false_iff, Bool.true_and] at h
  rw [isSlash, h.1.1.1, h.2]
  rfl

theorem isSlash_of_mem {c : Char} (h : c ∈ ['/', '/']) : isSlash c = true := by
  have slashes : ['/', '/'].all isSlash = true := rfl
  exact List.all_eq_true.1 slashes c h

/-- What introduces an authority goes up to its first character. -/
theorem Introduces.eq_slashes {kind : SchemeKind} {slashes tail tail' : List Char}
    (h : Introduces kind slashes) (ht : ∀ c ∈ tail.head?, endsAuthority (kind != .other) c = false)
    (ht' : ∀ c ∈ tail'.head?, endsAuthority (kind != .other) c = false)
    (same : slashes ++ tail = '/' :: '/' :: tail') : slashes = ['/', '/'] := by
  cases kind with
  | other => exact h
  | file =>
    obtain ⟨a, b, rfl⟩ := List.length_eq_two.1 h.1
    obtain ⟨rfl, rest⟩ := List.cons.inj same
    obtain ⟨rfl, -⟩ := List.cons.inj rest
    rfl
  | special =>
    have cut : (slashes ++ tail).span isSlash = (slashes, tail) :=
      span_append h fun c hc => not_isSlash_of_endsAuthority (ht c hc)
    have two : (['/', '/'] ++ tail').span isSlash = (['/', '/'], tail') :=
      span_append (fun c hc => isSlash_of_mem hc) fun c hc => not_isSlash_of_endsAuthority (ht' c hc)
    rw [same] at cut
    exact (Prod.mk.inj (cut.symm.trans two)).1

theorem head?_append_of_ne_nil {front back : List Char} (h : front ≠ []) {c : Char}
    (hc : c ∈ (front ++ back).head?) : c ∈ front := by
  obtain ⟨first, more, rfl⟩ := List.exists_cons_of_ne_nil h
  obtain rfl := Option.some.inj hc
  exact List.mem_cons_self

/-- A scheme begins with a letter, which is no control. -/
theorem Parts.before_eq_nil {p : Parts} {scheme rest : List Char} (h : IsScheme scheme)
    (same : p.chars = scheme ++ rest) : p.before = [] := by
  obtain ⟨first, more, rfl, letter, -⟩ := h
  cases hb : p.before with
  | nil => rfl
  | cons c before =>
    have control : c ≤ ' ' := p.controls c (by simp [hb])
    have head : c = first := by
      rw [Parts.chars, hb] at same
      exact (List.cons.inj same).1
    rw [head] at control
    simp only [isAsciiLetter, Bool.or_eq_true, Bool.and_eq_true, decide_eq_true_eq] at letter
    rcases letter with small | capital
    · exact absurd (le_trans small.1 control) (by decide)
    · exact absurd (le_trans capital.1 control) (by decide)

/-- An authority is written after `://` if nothing stands before the scheme and two slashes introduce it. -/
theorem Parts.hasWrittenAuthority_iff (p : Parts) :
    HasWrittenAuthority p.chars ↔ p.before = [] ∧ p.slashes = ['/', '/'] := by
  constructor
  · rintro ⟨scheme, authority, rest, same, isScheme, some, inside⟩
    have before : p.before = [] := p.before_eq_nil isScheme same
    refine ⟨before, ?_⟩
    have whole : p.chars = p.scheme ++ ':' :: (p.slashes ++ (p.authority ++ (p.rest ++ p.after))) := by
      simp [Parts.chars, before]
    rw [whole] at same
    obtain ⟨scheme_eq, slashes_eq⟩ := p.isScheme.unique isScheme same
    refine p.introduces.eq_slashes (fun c hc => ?_) (fun c hc => ?_) slashes_eq
    · exact p.inside c (head?_append_of_ne_nil p.authority_ne_nil hc)
    · rw [scheme_eq]
      exact inside c (head?_append_of_ne_nil some hc)
  · rintro ⟨before, slashes⟩
    refine ⟨p.scheme, p.authority, p.rest ++ p.after, ?_, p.isScheme, p.authority_ne_nil, p.inside⟩
    simp [Parts.chars, before, slashes]

/-! ## Control characters -/

theorem isControl_of_not_isBlank {c : Char} (h : c ≤ ' ') (blank : isBlank c = false) :
    isControl c = true := by
  have check : ∀ c : Char, c.toNat < 33 → isBlank c = false → isControl c = true :=
    forall_char_lt (by decide)
  exact check c (Nat.lt_succ_of_le h) blank

theorem not_isControl_of_inScheme {c : Char} (h : inScheme c = true) : isControl c = false := by
  have ascii : isAscii c = true := by
    simp only [inScheme, Bool.or_eq_true, beq_iff_eq] at h
    rcases h with (((letter | digit) | rfl) | rfl) | rfl
    · exact isAscii_of_isAsciiLetter letter
    · exact isAscii_of_isAsciiDigit digit
    · rfl
    · rfl
    · rfl
  have check : ∀ c : Char, c.toNat < 128 → inScheme c = true → isControl c = false :=
    forall_char_lt (by decide +kernel)
  exact check c (of_decide_eq_true ascii) h

theorem Introduces.isSlash_of_mem {kind : SchemeKind} {slashes : List Char}
    (h : Introduces kind slashes) {c : Char} (hc : c ∈ slashes) : isSlash c = true := by
  cases kind with
  | file => exact h.2 c hc
  | special => exact h c hc
  | other =>
    rw [show slashes = ['/', '/'] from h] at hc
    exact Uri.isSlash_of_mem hc

/-- In a text without white space control characters are what does not count at the ends, or they stand in
the authority or behind it. -/
theorem Parts.forall_not_isControl_iff (p : Parts) (clean : ∀ c ∈ p.chars, isBlank c = false) :
    (∀ c ∈ p.chars, isControl c = false) ↔
      p.before = [] ∧ p.after = [] ∧ ∀ c ∈ p.authority ++ p.rest, isControl c = false := by
  constructor
  · intro h
    have ends : p.before ++ p.after = [] := by
      refine List.eq_nil_iff_forall_not_mem.2 fun c hc => ?_
      have inText : c ∈ p.chars := Parts.mem_chars_iff.2 (.inl hc)
      have control := isControl_of_not_isBlank (p.controls c hc) (clean c inText)
      rw [h c inText] at control
      cases control
    obtain ⟨before, after⟩ := List.append_eq_nil_iff.1 ends
    refine ⟨before, after, fun c hc => h c ?_⟩
    exact Parts.mem_chars_iff.2 (.inr (.inr (.inr (.inr hc))))
  · rintro ⟨before, after, inside⟩ c hc
    rcases Parts.mem_chars_iff.1 hc with ends | scheme | rfl | slashes | inner
    · rw [before, after] at ends
      cases ends
    · obtain ⟨first, more, whole, letter, more_inside⟩ := p.isScheme
      rw [whole] at scheme
      rcases List.mem_cons.1 scheme with rfl | hm
      · exact not_isControl_of_inScheme (by simp [inScheme, letter])
      · exact not_isControl_of_inScheme (more_inside c hm)
    · decide
    · have slash := p.introduces.isSlash_of_mem slashes
      simp only [isSlash, Bool.or_eq_true, beq_iff_eq] at slash
      rcases slash with rfl | rfl <;> decide
    · exact inside c inner

end Uri

namespace TextFormat

/-- What is detected as a URI has a scheme, a colon and an authority that is not empty, and no white space. The
authority is written after `://` unless controls were trimmed off in front of the scheme, or a special
scheme is followed by other slashes; and there are no control characters unless some were trimmed off or
stand in the authority or behind it. -/
theorem detect_uri {d : Detectors} {s : String} (h : d.detect s = some uri) :
    ∃ p : Uri.Parts, p.chars = s.toList ∧ (∀ c ∈ s.toList, isBlank c = false) ∧
      (Uri.HasWrittenAuthority s.toList ↔ p.before = [] ∧ p.slashes = ['/', '/']) ∧
      ((∀ c ∈ s.toList, isControl c = false) ↔
        p.before = [] ∧ p.after = [] ∧ ∀ c ∈ p.authority ++ p.rest, isControl c = false) := by
  obtain ⟨-, has⟩ := Detectors.detect_eq_some_iff.1 h
  have has : isUri s = true := has
  rw [isUri, Bool.and_eq_true, Bool.not_eq_true', List.any_eq_false] at has
  obtain ⟨unblank, named⟩ := has
  have clean : ∀ c ∈ s.toList, isBlank c = false := fun c hc => by simpa using unblank c hc
  obtain ⟨p, whole⟩ := Uri.exists_parts_of_namesHost named
  refine ⟨p, whole, clean, ?_, ?_⟩
  · rw [← whole]
    exact p.hasWrittenAuthority_iff
  · rw [← whole] at clean ⊢
    exact p.forall_not_isControl_iff clean

/-- A control in front, a backslash, and an address in brackets. -/
theorem detect_uri_bracketed :
    Detectors.all.detect "\x01http:\\[::]" = some uri ∧
      ∃ p : Uri.Parts, p.chars = "\x01http:\\[::]".toList ∧
        ¬ (p.before = [] ∧ p.slashes = ['/', '/']) := by
  have found : Detectors.all.detect "\x01http:\\[::]" = some uri := by
    rw [Detectors.detect_eq_some_iff]
    decide +kernel
  have slashless : ¬ Uri.HasWrittenAuthority "\x01http:\\[::]".toList := by
    rintro ⟨scheme, authority, rest, same, -⟩
    have slash : '/' ∉ "\x01http:\\[::]".toList := by decide
    rw [same] at slash
    simp at slash
  obtain ⟨p, whole, -, written, -⟩ := detect_uri found
  exact ⟨found, p, whole, fun both => slashless (written.2 both)⟩

/-- A domain right after the colon of its scheme is detected as a URI. -/
theorem detect_uri_slashless :
    Detectors.all.detect "http:example.com" = some uri ∧
      ¬ Uri.HasWrittenAuthority "http:example.com".toList := by
  constructor
  · rw [Detectors.detect_eq_some_iff]
    decide +kernel
  · rintro ⟨scheme, authority, rest, same, -⟩
    have slash : '/' ∉ "http:example.com".toList := by decide
    rw [same] at slash
    simp at slash

end TextFormat

end JsonShape
