import Mathlib.Data.List.TakeWhile
import Mathlib.Data.String.Basic
import JsonShape.Detectors
import JsonShape.Proofs.Text.Digits
import JsonShape.Proofs.Text.Fields

/-!
# Labels between points

A text is scanned for labels from left to right, and of the label that has begun only a summary is kept.
The summary is one of the characters read since the last point (`Label.ofChars`), so a scan that goes on
from there finds labels exactly if the text, with these characters in front, has labels between its points
(`scanLabels_iff`). This says which texts are host names and e-mail addresses without the scan
(`isHostname_iff`, `isEmail_iff`).
-/

set_option autoImplicit false

namespace JsonShape

namespace TextFormat

/-- A label: 1 to 63 letters, digits and hyphens, and no hyphen at either end. -/
structure IsLabel (label : List Char) : Prop where
  length_pos : 1 ≤ label.length
  length_le : label.length ≤ 63
  inside : ∀ c ∈ label, isAsciiLetter c = true ∨ isAsciiDigit c = true ∨ c = '-'
  first : label.head? ≠ some '-'
  last : label.getLast? ≠ some '-'

/-- Two or more labels with points between them. -/
structure IsDomain (cs : List Char) : Prop where
  two_le : 2 ≤ (fields '.' cs).length
  labels : ∀ label ∈ fields '.' cs, IsLabel label

/-! ## The label that has begun -/

/-- What may be the beginning of a label. -/
structure Begins (read : List Char) : Prop where
  inside : ∀ c ∈ read, isAsciiLetter c = true ∨ isAsciiDigit c = true ∨ c = '-'
  first : read.head? ≠ some '-'

theorem begins_nil : Begins [] := ⟨by simp, by simp⟩

theorem Begins.point_not_mem {read : List Char} (h : Begins read) : '.' ∉ read := by
  intro hm
  have := h.inside '.' hm
  revert this
  decide

theorem ne_hyphen {c : Char} (h : isAsciiLetter c = true ∨ isAsciiDigit c = true) : c ≠ '-' := by
  rintro rfl
  revert h
  decide

/-- A letter or a digit can always follow, and a hyphen can only follow something. -/
theorem begins_append_singleton_iff {read : List Char} (h : Begins read) {c : Char} :
    Begins (read ++ [c]) ↔
      isAsciiLetter c = true ∨ isAsciiDigit c = true ∨ (c = '-' ∧ read ≠ []) := by
  cases read with
  | nil =>
    constructor
    · intro hb
      have hc : c ≠ '-' := by simpa using hb.first
      rcases hb.inside c (by simp) with letter | digit | hyphen
      · exact .inl letter
      · exact .inr (.inl digit)
      · exact absurd hyphen hc
    · rintro (letter | digit | ⟨-, some⟩)
      · exact ⟨by simp [letter], by simp [ne_hyphen (.inl letter)]⟩
      · exact ⟨by simp [digit], by simp [ne_hyphen (.inr digit)]⟩
      · exact absurd rfl some
  | cons d read =>
    constructor
    · intro hb
      have := hb.inside c (by simp)
      simpa using this
    · intro hc
      refine ⟨?_, by simpa using h.first⟩
      rw [List.forall_mem_append, List.forall_mem_singleton]
      refine ⟨h.inside, ?_⟩
      simpa using hc

theorem IsLabel.begins {front back : List Char} (h : IsLabel (front ++ back)) : Begins front := by
  refine ⟨fun c hc => h.inside c (List.mem_append_left back hc), fun hyphen => h.first ?_⟩
  rw [List.head?_append, hyphen]
  rfl

namespace Label

theorem complete_iff {l : Label} :
    l.complete = true ↔ 1 ≤ l.length ∧ l.length ≤ 63 ∧ l.hyphen = false := by
  simp [complete, and_assoc]

theorem topLevel_iff {l : Label} : l.topLevel = true ↔ l.letters = true ∧ 2 ≤ l.length := by
  simp [topLevel]

/-- What is kept of the beginning of a label. -/
def ofChars (read : List Char) : Label :=
  ⟨read.length, read.getLast? == some '-', read.all isAsciiLetter⟩

theorem complete_ofChars {read : List Char} (h : Begins read) :
    (ofChars read).complete = true ↔ IsLabel read := by
  rw [complete_iff]
  constructor
  · rintro ⟨pos, le, last⟩
    exact ⟨pos, le, h.inside, h.first, beq_eq_false_iff_ne.1 last⟩
  · intro label
    exact ⟨label.length_pos, label.length_le, beq_eq_false_iff_ne.2 label.last⟩

theorem push?_ofChars {read : List Char} (h : Begins read) {c : Char} (hc : Begins (read ++ [c])) :
    (ofChars read).push? c = some (ofChars (read ++ [c])) := by
  rw [begins_append_singleton_iff h] at hc
  unfold push? ofChars
  by_cases letter : isAsciiLetter c = true
  · simp [letter, ne_hyphen (.inl letter)]
  · rcases hc with found | digit | ⟨rfl, some⟩
    · exact absurd found letter
    · simp [letter, digit, ne_hyphen (.inr digit)]
    · have pos : 0 < read.length := List.length_pos_iff.2 some
      simp [letter, pos, (by decide : isAsciiDigit '-' = false)]

theorem push?_eq_none {read : List Char} (h : Begins read) {c : Char} (hc : ¬ Begins (read ++ [c])) :
    (ofChars read).push? c = none := by
  rw [begins_append_singleton_iff h] at hc
  unfold push? ofChars
  have hyphen : ¬ (c = '-' ∧ 0 < read.length) := by
    rintro ⟨hc', pos⟩
    exact hc (.inr (.inr ⟨hc', List.length_pos_iff.1 pos⟩))
  rw [if_neg fun letter => hc (.inl letter), if_neg fun digit => hc (.inr (.inl digit)),
    if_neg hyphen]

theorem topLevel_ofChars {label : List Char} :
    (ofChars label).topLevel = true ↔ 2 ≤ label.length ∧ ∀ c ∈ label, isAsciiLetter c = true := by
  rw [topLevel_iff, and_comm]
  simp [ofChars]

end Label

/-! ## The scan -/

section
variable {last : Label → Bool} {before : Bool} {current : Label} {c : Char} {cs : List Char}
  (point : c ≠ '.')
include point

theorem scanLabels_of_push? {next : Label} (h : current.push? c = some next) :
    scanLabels last before current (c :: cs) = scanLabels last before next cs := by
  simp [scanLabels, h]

theorem scanLabels_of_push?_eq_none (h : current.push? c = none) :
    scanLabels last before current (c :: cs) = false := by
  simp [scanLabels, h]

end

/-- A scan that has begun a label finds what a reading of the whole text would find: labels between points,
the last one of a kind. -/
theorem scanLabels_iff {last : Label → Bool} {before : Bool} {read : List Char} (h : Begins read)
    (cs : List Char) :
    scanLabels last before (.ofChars read) cs = true ↔
      (before = true ∨ '.' ∈ cs) ∧ (∀ label ∈ fields '.' (read ++ cs), IsLabel label) ∧
        ∀ label ∈ (fields '.' (read ++ cs)).getLast?, last (.ofChars label) = true := by
  induction cs generalizing before read with
  | nil =>
    rw [List.append_nil, fields_eq_singleton h.point_not_mem, scanLabels]
    simp [Label.complete_ofChars h, and_assoc]
  | cons c cs ih =>
    by_cases point : c = '.'
    · subst point
      obtain ⟨first, more, cut⟩ := exists_fields_eq_cons '.' cs
      have start : Label.start = .ofChars [] := rfl
      have next : scanLabels last true .start cs = true ↔ _ := ih begins_nil
      rw [List.nil_append, cut] at next
      rw [fields_append_cons, fields_eq_singleton h.point_not_mem, cut, scanLabels, Bool.and_eq_true,
        next, Label.complete_ofChars h]
      simp [and_assoc]
    · have whole : read ++ c :: cs = (read ++ [c]) ++ cs := by simp
      by_cases hc : Begins (read ++ [c])
      · have inside : '.' ∈ c :: cs ↔ '.' ∈ cs := by simp [Ne.symm point]
        rw [scanLabels_of_push? point (Label.push?_ofChars h hc), whole, inside]
        exact ih hc
      · rw [scanLabels_of_push?_eq_none point (Label.push?_eq_none h hc)]
        simp only [Bool.false_eq_true, false_iff]
        rintro ⟨-, labels, -⟩
        obtain ⟨first, more, cut⟩ := exists_fields_eq_cons '.' cs
        have clean : '.' ∉ read ++ [c] := by simp [h.point_not_mem, Ne.symm point]
        have label : IsLabel ((read ++ [c]) ++ first) := by
          apply labels
          rw [whole, fields_append_of_not_mem clean cut]
          exact List.mem_cons_self
        exact hc label.begins

theorem scanLabels_iff_isDomain {last : Label → Bool} {cs : List Char} :
    scanLabels last false .start cs = true ↔
      IsDomain cs ∧ ∀ label ∈ (fields '.' cs).getLast?, last (.ofChars label) = true := by
  have start : Label.start = .ofChars [] := rfl
  have point : '.' ∈ cs ↔ 2 ≤ (fields '.' cs).length := by
    rw [length_fields, ← List.count_pos_iff]
    omega
  rw [start, scanLabels_iff begins_nil, List.nil_append, point]
  constructor
  · rintro ⟨two, labels, top⟩
    exact ⟨⟨two.resolve_left Bool.false_ne_true, labels⟩, top⟩
  · rintro ⟨domain, top⟩
    exact ⟨.inr domain.two_le, domain.labels, top⟩

/-! ## Host names and addresses -/

theorem isHostname_iff {s : String} :
    isHostname s = true ↔
      s.utf8ByteSize ≤ 253 ∧ IsDomain s.toList ∧
        ∃ top, (fields '.' s.toList).getLast? = some top ∧ 2 ≤ top.length ∧ top.length ≤ 63 ∧
          ∀ c ∈ top, isAsciiLetter c = true := by
  rw [isHostname, Bool.and_eq_true, decide_eq_true_eq, scanLabels_iff_isDomain]
  refine and_congr_right fun _ => and_congr_right fun domain => ?_
  constructor
  · intro h
    obtain ⟨first, more, cut⟩ := exists_fields_eq_cons '.' s.toList
    have some : fields '.' s.toList ≠ [] := by simp [cut]
    have found := List.getLast?_eq_some_getLast some
    obtain ⟨two, letters⟩ := Label.topLevel_ofChars.1 (h _ found)
    have label := domain.labels _ (List.mem_of_getLast? found)
    exact ⟨_, found, two, label.length_le, letters⟩
  · rintro ⟨top, found, two, -, letters⟩ label hl
    rw [found] at hl
    obtain rfl := Option.some.inj hl
    exact Label.topLevel_ofChars.2 ⟨two, letters⟩

theorem IsDomain.inside {cs : List Char} (h : IsDomain cs) {c : Char} (hc : c ∈ cs) :
    (isAsciiLetter c = true ∨ isAsciiDigit c = true ∨ c = '-') ∨ c = '.' := by
  by_cases point : c = '.'
  · exact .inr point
  · obtain ⟨label, hl, hm⟩ := mem_fields_iff.2 ⟨hc, point⟩
    exact .inl ((h.labels label hl).inside c hm)

theorem IsDomain.point_mem {cs : List Char} (h : IsDomain cs) : '.' ∈ cs := by
  have two := h.two_le
  rw [length_fields] at two
  exact List.count_pos_iff.1 (by omega)

theorem IsDomain.at_not_mem {cs : List Char} (h : IsDomain cs) : '@' ∉ cs := by
  intro hm
  have := h.inside hm
  revert this
  decide

theorem isEmail_iff {s : String} :
    isEmail s = true ↔
      ∃ mailbox domain, s.toList = mailbox ++ '@' :: domain ∧ mailbox ≠ [] ∧
        (∀ c ∈ mailbox, inMailbox c = true) ∧ IsDomain domain := by
  have any_last : ∀ cs : List Char, scanLabels (fun _ => true) false .start cs = true ↔ IsDomain cs := by
    intro cs
    rw [scanLabels_iff_isDomain]
    simp
  rw [isEmail]
  constructor
  · intro h
    split at h
    · next first more domain cut =>
      rw [List.span_eq_takeWhile_dropWhile] at cut
      obtain ⟨taken, left⟩ := Prod.mk.inj cut
      have whole := List.takeWhile_append_dropWhile (p := inMailbox) (l := s.toList)
      rw [taken, left] at whole
      refine ⟨first :: more, domain, whole.symm, by simp, fun c hc => ?_, (any_last domain).1 h⟩
      rw [← taken] at hc
      exact List.mem_takeWhile_imp hc
    · cases h
  · rintro ⟨mailbox, domain, whole, some, inside, labels⟩
    have stop : ∀ c ∈ ('@' :: domain).head?, inMailbox c = false := by
      rintro c hc
      obtain rfl := Option.some.inj hc
      decide
    rw [whole, span_append inside stop]
    obtain ⟨first, more, rfl⟩ := List.exists_cons_of_ne_nil some
    exact (any_last domain).2 labels

end TextFormat

end JsonShape
