import Mathlib.Data.List.TakeWhile
import JsonShape.Text.Blank

/-!
# Trimming

White space around a text that has none at its ends is what is trimmed off (`trimBlanks_around`), and
nothing is left of white space alone (`trimBlanks_blank`).
-/

set_option autoImplicit false

namespace JsonShape

/-- No white space at either end. -/
structure Trimmed (cs : List Char) : Prop where
  head : ∀ c ∈ cs.head?, isBlank c = false
  last : ∀ c ∈ cs.getLast?, isBlank c = false

theorem trimmed_of_forall {cs : List Char} (h : ∀ c ∈ cs, isBlank c = false) : Trimmed cs where
  head c hc := h c (List.mem_of_mem_head? hc)
  last c hc := h c (List.mem_of_mem_getLast? hc)

theorem trimBlanks_blank {cs : List Char} (h : ∀ c ∈ cs, isBlank c = true) : trimBlanks cs = [] := by
  rw [trimBlanks, List.dropWhile_eq_nil_iff.2 h]
  rfl

theorem dropWhile_isBlank {before cs : List Char} (blank : ∀ c ∈ before, isBlank c = true)
    (first : ∀ c ∈ cs.head?, isBlank c = false) : (before ++ cs).dropWhile isBlank = cs := by
  rw [List.dropWhile_append_of_pos blank]
  cases cs with
  | nil => rfl
  | cons c cs =>
    apply List.dropWhile_cons_of_neg
    rw [first c rfl]
    exact Bool.false_ne_true

theorem trimBlanks_around {before cs after : List Char} (front : ∀ c ∈ before, isBlank c = true)
    (back : ∀ c ∈ after, isBlank c = true) (inside : Trimmed cs) :
    trimBlanks (before ++ cs ++ after) = cs := by
  cases cs with
  | nil =>
    apply trimBlanks_blank
    rw [List.append_nil, List.forall_mem_append]
    exact ⟨front, back⟩
  | cons c cs =>
    have ahead : (before ++ (c :: cs ++ after)).dropWhile isBlank = c :: cs ++ after :=
      dropWhile_isBlank front inside.head
    have behind : (after.reverse ++ (c :: cs).reverse).dropWhile isBlank = (c :: cs).reverse := by
      apply dropWhile_isBlank
      · intro x hx
        exact back x (List.mem_reverse.1 hx)
      · rw [List.head?_reverse]
        exact inside.last
    rw [trimBlanks, List.append_assoc, ahead, List.reverse_append, behind, List.reverse_reverse]

end JsonShape
