import Mathlib.Data.List.Count
import JsonShape.Text.Fields

/-!
# Fields of a text, from their characters

A text has one field more than it has separators (`length_fields`), the fields hold all its other
characters and nothing else (`mem_fields_iff`), and a separator cuts the fields of what comes before
it from those of what comes after (`fields_append_cons`). The last field ends the text
(`eq_append_of_fields_eq`). Fields that are joined again are cut again (`fields_intercalate`).
-/

set_option autoImplicit false

namespace JsonShape

variable {separator : Char}

/-- The first field is whatever comes before the first separator. -/
theorem exists_fields_eq_cons (separator : Char) (cs : List Char) :
    ∃ part parts, fields separator cs = part :: parts := by
  induction cs with
  | nil => exact ⟨[], [], rfl⟩
  | cons c cs ih =>
    obtain ⟨part, parts, h⟩ := ih
    by_cases hc : c = separator
    · exact ⟨[], part :: parts, by rw [fields, if_pos hc, h]⟩
    · exact ⟨c :: part, parts, by rw [fields, if_neg hc, h]⟩

theorem length_fields (cs : List Char) :
    (fields separator cs).length = cs.count separator + 1 := by
  induction cs with
  | nil => rfl
  | cons c cs ih =>
    by_cases hc : c = separator
    · rw [fields, if_pos hc, List.length_cons, ih, hc, List.count_cons_self]
    · obtain ⟨part, parts, h⟩ := exists_fields_eq_cons separator cs
      rw [h] at ih
      rw [fields, if_neg hc, h, List.count_cons_of_ne hc]
      exact ih

/-- The fields hold the characters of a text that are no separators. -/
theorem mem_fields_iff {cs : List Char} {c : Char} :
    (∃ part ∈ fields separator cs, c ∈ part) ↔ c ∈ cs ∧ c ≠ separator := by
  induction cs with
  | nil => simp [fields]
  | cons d cs ih =>
    by_cases hd : d = separator
    · rw [fields, if_pos hd]
      simp only [List.mem_cons, exists_eq_or_imp, List.not_mem_nil, false_or, ih, hd]
      tauto
    · obtain ⟨part, parts, h⟩ := exists_fields_eq_cons separator cs
      rw [h] at ih
      rw [fields, if_neg hd, h]
      simp only [List.mem_cons, exists_eq_or_imp] at ih ⊢
      rw [or_assoc, ih]
      constructor
      · rintro (rfl | ⟨hm, hn⟩)
        · exact ⟨.inl rfl, hd⟩
        · exact ⟨.inr hm, hn⟩
      · tauto

theorem separator_not_mem_of_mem_fields {cs part : List Char} (h : part ∈ fields separator cs) :
    separator ∉ part :=
  fun hm => (mem_fields_iff.1 ⟨part, h, hm⟩).2 rfl

theorem fields_eq_singleton {cs : List Char} (h : separator ∉ cs) : fields separator cs = [cs] := by
  induction cs with
  | nil => rfl
  | cons c cs ih =>
    rw [List.mem_cons, not_or] at h
    rw [fields, if_neg (Ne.symm h.1), ih h.2]

theorem fields_append_cons (front back : List Char) :
    fields separator (front ++ separator :: back) =
      fields separator front ++ fields separator back := by
  induction front with
  | nil => rw [List.nil_append, fields, fields, if_pos rfl, List.singleton_append]
  | cons c front ih =>
    rw [List.cons_append, fields, fields, ih]
    by_cases hc : c = separator
    · rw [if_pos hc, if_pos hc]
      rfl
    · obtain ⟨part, parts, h⟩ := exists_fields_eq_cons separator front
      rw [if_neg hc, if_neg hc, h]
      rfl

/-- What comes before the first separator goes into the first field. -/
theorem fields_append_of_not_mem {front back part : List Char} {parts : List (List Char)}
    (h : separator ∉ front) (cut : fields separator back = part :: parts) :
    fields separator (front ++ back) = (front ++ part) :: parts := by
  induction front with
  | nil => exact cut
  | cons c front ih =>
    rw [List.mem_cons, not_or] at h
    rw [List.cons_append, fields, if_neg (Ne.symm h.1), ih h.2]
    rfl

/-- The first field is what comes before the first separator. -/
theorem eq_append_of_fields_eq_cons {cs part : List Char} {parts : List (List Char)}
    (h : fields separator cs = part :: parts) :
    (parts = [] ∧ cs = part) ∨
      ∃ back, cs = part ++ separator :: back ∧ fields separator back = parts := by
  induction cs generalizing part with
  | nil =>
    obtain ⟨rfl, rfl⟩ := List.cons.inj h
    exact .inl ⟨rfl, rfl⟩
  | cons c cs ih =>
    by_cases hc : c = separator
    · rw [fields, if_pos hc] at h
      obtain ⟨rfl, rest⟩ := List.cons.inj h
      exact .inr ⟨cs, by rw [hc, List.nil_append], rest⟩
    · obtain ⟨first, more, cut⟩ := exists_fields_eq_cons separator cs
      rw [fields, if_neg hc, cut] at h
      obtain ⟨rfl, rfl⟩ := List.cons.inj h
      rcases ih cut with ⟨none, rfl⟩ | ⟨back, rfl, rest⟩
      · exact .inl ⟨none, rfl⟩
      · exact .inr ⟨back, rfl, rest⟩

/-- The last field is what comes after the last separator. -/
theorem eq_append_of_fields_eq {cs part : List Char} {parts : List (List Char)}
    (h : fields separator cs = parts ++ [part]) :
    (parts = [] ∧ cs = part) ∨
      ∃ front, cs = front ++ separator :: part ∧ fields separator front = parts := by
  by_cases hs : separator ∈ cs
  · obtain ⟨back, front, cut, first⟩ := List.eq_append_cons_of_mem (List.mem_reverse.2 hs)
    have whole : cs = front.reverse ++ separator :: back.reverse := by
      rw [← List.reverse_reverse cs, cut]
      simp
    have last : separator ∉ back.reverse := fun hm => first (List.mem_reverse.1 hm)
    rw [whole, fields_append_cons, fields_eq_singleton last] at h
    obtain ⟨front_eq, part_eq⟩ := List.append_inj' h rfl
    rw [List.singleton_inj] at part_eq
    exact .inr ⟨front.reverse, part_eq ▸ whole, front_eq⟩
  · rw [fields_eq_singleton hs] at h
    obtain ⟨none, same⟩ := List.append_inj' ((List.nil_append _).trans h) rfl
    exact .inl ⟨none.symm, List.singleton_inj.1 same⟩

/-! ## Texts joined by a separator -/

/-- Fields joined by the separator that cuts them are the fields of the text. -/
theorem fields_intercalate {parts : List (List Char)} (some : parts ≠ [])
    (h : ∀ part ∈ parts, separator ∉ part) :
    fields separator ([separator].intercalate parts) = parts := by
  induction parts with
  | nil => exact absurd rfl some
  | cons part parts ih =>
    rw [List.forall_mem_cons] at h
    cases parts with
    | nil => rw [List.intercalate_singleton, fields_eq_singleton h.1]
    | cons next parts =>
      rw [List.intercalate_cons_cons, List.append_assoc, List.singleton_append,
        fields_append_cons, fields_eq_singleton h.1, ih (List.cons_ne_nil _ _) h.2]
      rfl

/-- A joined text begins with the first of its parts. -/
theorem exists_intercalate_cons (separator part : List Char) (parts : List (List Char)) :
    ∃ rest, separator.intercalate (part :: parts) = part ++ rest := by
  cases parts with
  | nil => exact ⟨[], by rw [List.intercalate_singleton, List.append_nil]⟩
  | cons next parts => exact ⟨_, by rw [List.intercalate_cons_cons, List.append_assoc]⟩

theorem infix_intercalate {separator part : List Char} {parts : List (List Char)}
    (h : part ∈ parts) : part <:+: separator.intercalate parts := by
  induction parts with
  | nil => cases h
  | cons first parts ih =>
    obtain ⟨rest, joined⟩ := exists_intercalate_cons separator first parts
    rcases List.mem_cons.1 h with rfl | h
    · exact ⟨[], rest, joined.symm⟩
    · cases parts with
      | nil => cases h
      | cons next parts =>
        rw [List.intercalate_cons_cons]
        exact (ih h).trans (List.suffix_append _ _).isInfix

end JsonShape
