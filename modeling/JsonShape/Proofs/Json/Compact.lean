import Mathlib.Data.String.Basic
import JsonShape.Json.Printer
import JsonShape.Proofs.Json.Canonical
import JsonShape.Proofs.Json.Numerals
import JsonShape.Proofs.Text.Blank

/-!
# Compact text stands on a line

No character of a compact text is a control character, whatever its strings hold
(`visible_of_mem_compactChars`), and no text begins or ends with white space (`trimmed_compactChars`). So
it can stand on a line of its own, with white space around it.
-/

set_option autoImplicit false

namespace JsonShape

/-! ## Leaves -/

/-- Not a control character of ASCII. -/
def Visible (c : Char) : Prop := 0x20 ≤ c.toNat

instance : DecidablePred Visible := fun c => inferInstanceAs (Decidable (0x20 ≤ c.toNat))

theorem visible_of_inNumeral {c : Char} (h : Token.inNumeral c = true) :
    Visible c ∧ isBlank c = false := by
  simp only [Token.inNumeral, Bool.or_eq_true, beq_iff_eq] at h
  rcases h with ((((digit | rfl) | rfl) | rfl) | rfl) | rfl
  · rw [isAsciiDigit, Bool.and_eq_true, decide_eq_true_eq, decide_eq_true_eq] at digit
    have low : 48 ≤ c.toNat := digit.1
    have high : c.toNat ≤ 57 := digit.2
    refine ⟨Nat.le_trans (by decide) low, ?_⟩
    simp only [isBlank, Bool.or_eq_false_iff, Bool.and_eq_false_iff, decide_eq_false_iff_not,
      beq_eq_false_iff_ne, ne_eq]
    omega
  all_goals exact ⟨by decide, by decide⟩

theorem Number.inNumeral_of_mem_text {n : Number} {c : Char} (h : c ∈ n.text) :
    Token.inNumeral c = true := by
  obtain ⟨numeral, proper, chars, -⟩ := n.exists_numeral
  rw [← chars] at h
  exact Numeral.inNumeral_of_mem_chars proper h

namespace Json

theorem visible_digitChar {n : Nat} (h : n < 16) : Visible (Nat.digitChar n) := by
  have digits : ∀ k < 16, Visible (Nat.digitChar k) := by decide
  exact digits n h

theorem visible_escape {c : Char} (h : Visible c) : ∀ d ∈ ['\\', c], Visible d := by
  rw [List.forall_mem_cons, List.forall_mem_singleton]
  exact ⟨by decide, h⟩

theorem visible_of_mem_escapeChar (c : Char) : ∀ d ∈ escapeChar c, Visible d := by
  unfold escapeChar
  repeat' split
  -- seven characters have an escape of two, the other control characters one of six
  any_goals exact visible_escape (by decide)
  · rename_i control
    simp only [List.forall_mem_cons]
    refine ⟨by decide, by decide, by decide, by decide, ?_, ?_, by simp⟩
    · apply visible_digitChar
      omega
    · apply visible_digitChar
      omega
  · rename_i plain
    rw [List.forall_mem_singleton]
    exact Nat.le_of_not_lt plain

theorem visible_of_mem_quote (s : String) : ∀ c ∈ quote s, Visible c := by
  intro c hc
  rw [quote, List.cons_append, List.mem_cons, List.mem_append, List.mem_flatMap,
    List.mem_singleton] at hc
  rcases hc with rfl | ⟨d, -, hd⟩ | rfl
  · decide
  · exact visible_of_mem_escapeChar d c hd
  · decide

/-! ## Values -/

theorem visible_of_mem_compactItems {items : List Json}
    (h : ∀ v ∈ items, ∀ c ∈ v.compactChars, Visible c) : ∀ c ∈ compactItems items, Visible c := by
  induction items with
  | nil => simp [compactItems, Visible]
  | cons v items ih =>
    rw [List.forall_mem_cons] at h
    rw [compactItems, List.forall_mem_cons, List.forall_mem_append]
    exact ⟨by decide, h.1, ih h.2⟩

theorem visible_of_mem_compactMembers {members : List (String × Json)}
    (h : ∀ m ∈ members, ∀ c ∈ m.2.compactChars, Visible c) :
    ∀ c ∈ compactMembers members, Visible c := by
  induction members with
  | nil => simp [compactMembers, Visible]
  | cons m members ih =>
    obtain ⟨k, v⟩ := m
    rw [List.forall_mem_cons] at h
    rw [compactMembers, List.forall_mem_cons, List.forall_mem_append, List.forall_mem_cons,
      List.forall_mem_append]
    exact ⟨by decide, visible_of_mem_quote k, by decide, h.1, ih h.2⟩

/-- Control characters of strings are escaped, and there are none outside of strings. -/
theorem visible_of_mem_compactChars (v : Json) : ∀ c ∈ v.compactChars, Visible c := by
  induction v using Json.induct with
  | null => simp [compactChars, Visible]
  | bool b => cases b <;> simp [compactChars, Visible]
  | number n =>
    intro c hc
    exact (visible_of_inNumeral (Number.inNumeral_of_mem_text hc)).1
  | string s => exact visible_of_mem_quote s
  | array items ih =>
    cases items with
    | nil => simp [compactChars, Visible]
    | cons v rest =>
      rw [List.forall_mem_cons] at ih
      rw [compactChars, List.forall_mem_cons, List.forall_mem_append]
      exact ⟨by decide, ih.1, visible_of_mem_compactItems ih.2⟩
  | object members ih =>
    cases members with
    | nil => simp [compactChars, Visible]
    | cons m rest =>
      obtain ⟨k, v⟩ := m
      rw [List.forall_mem_cons] at ih
      rw [compactChars, List.forall_mem_cons, List.forall_mem_append, List.forall_mem_cons,
        List.forall_mem_append]
      exact ⟨by decide, visible_of_mem_quote k, by decide, ih.1, visible_of_mem_compactMembers ih.2⟩

theorem getLast?_compactItems (items : List Json) : (compactItems items).getLast? = some ']' := by
  induction items with
  | nil => rfl
  | cons v items ih => simp [compactItems, List.getLast?_cons, ih]

theorem getLast?_compactMembers (members : List (String × Json)) :
    (compactMembers members).getLast? = some '\x7d' := by
  induction members with
  | nil => rfl
  | cons m members ih => simp [compactMembers, List.getLast?_cons, ih]

/-- Text inside a pair of other characters. -/
theorem trimmed_of_ends (first last : Char) {cs : List Char} (front : isBlank first = false)
    (ends : cs.getLast? = some last) (back : isBlank last = false) : Trimmed (first :: cs) := by
  refine ⟨fun c hc => ?_, fun c hc => ?_⟩
  · cases hc
    exact front
  · rw [List.getLast?_cons, ends] at hc
    cases hc
    exact back

theorem trimmed_compactChars (v : Json) : Trimmed v.compactChars := by
  cases v with
  | null => exact trimmed_of_forall (by simp [compactChars, isBlank])
  | bool b => cases b <;> exact trimmed_of_forall (by simp [compactChars, isBlank])
  | number n =>
    apply trimmed_of_forall
    intro c hc
    exact (visible_of_inNumeral (Number.inNumeral_of_mem_text hc)).2
  | string s => exact trimmed_of_ends '"' '"' rfl (by simp) rfl
  | array items =>
    cases items with
    | nil => exact trimmed_of_ends '[' ']' rfl rfl rfl
    | cons v rest =>
      apply trimmed_of_ends '[' ']' rfl ?_ rfl
      rw [List.getLast?_append, getLast?_compactItems]
      rfl
  | object members =>
    cases members with
    | nil => exact trimmed_of_ends '\x7b' '\x7d' rfl rfl rfl
    | cons m rest =>
      apply trimmed_of_ends '\x7b' '\x7d' rfl ?_ rfl
      simp [List.getLast?_cons, getLast?_compactMembers]

theorem compactChars_ne_nil (v : Json) : v.compactChars ≠ [] := by
  cases v with
  | null | string s => exact List.cons_ne_nil _ _
  | bool b => cases b <;> exact List.cons_ne_nil _ _
  | number n =>
    obtain ⟨numeral, proper, chars, -⟩ := n.exists_numeral
    obtain ⟨c, rest, hc, -⟩ := Numeral.exists_chars_eq_cons proper
    rw [compactChars, ← chars, hc]
    exact List.cons_ne_nil c rest
  | array items => cases items <;> exact List.cons_ne_nil _ _
  | object members => cases members <;> exact List.cons_ne_nil _ _

end Json

end JsonShape
