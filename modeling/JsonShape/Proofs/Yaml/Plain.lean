import JsonShape.Proofs.Yaml.Quoted
import JsonShape.Yaml.Reader

/-!
# Plain scalars read back

A text that can be plain is read back as it is (`plain_of_canBePlain`), and so is a key before its colon
(`key?_append`). Neither has a mark that would end it: a colon before white space, or a number sign
after it.
-/

set_option autoImplicit false

namespace JsonShape

namespace Yaml

variable {c d : Char} {cs rest : List Char}

/-! ## What stands around a scalar -/

/-- What follows a scalar: nothing, or a line that begins with a letter left of the column `bound`. -/
def Outside (bound : Nat) (rest : List Char) : Prop :=
  rest = [] ∨ ∃ k c cs, k < bound ∧ isAsciiLetter c = true ∧ rest = List.replicate k ' ' ++ c :: cs

theorem Outside.mono {bound bound' : Nat} (h : Outside bound rest) (le : bound ≤ bound') :
    Outside bound' rest := by
  rcases h with rfl | ⟨k, c, cs, small, letter, rfl⟩
  · exact .inl rfl
  · exact .inr ⟨k, c, cs, by omega, letter, rfl⟩

theorem ne_of_isAsciiLetter (letter : isAsciiLetter c = true) (other : isAsciiLetter d = false) :
    c ≠ d := by
  rintro rfl
  rw [letter] at other
  cases other

theorem isBreak_of_isAsciiLetter (letter : isAsciiLetter c = true) : isBreak c = false := by
  have other {d : Char} := ne_of_isAsciiLetter (d := d) letter
  simp [isBreak, other (d := '\n') rfl, other (d := '\u2028') rfl, other (d := '\u2029') rfl]

/-! ## One line -/

/-- A line without marks is read up to a mark. -/
theorem plainLine_append {blank : Bool} (inside : ∀ c ∈ cs, isBreak c = false)
    (colon : hasColon cs = false)
    (comment : hasPair (fun c => isSpace c || isBreak c) (· == '#') cs = false)
    (first : blank = true → cs.head? ≠ some '#')
    (stop : ∀ blank, plainLine false blank rest = some ([], rest)) :
    plainLine false blank (cs ++ rest) = some (cs, rest) := by
  induction cs generalizing blank with
  | nil => exact stop blank
  | cons c cs ih =>
    rw [List.forall_mem_cons] at inside
    simp only [hasColon, Bool.or_eq_false_iff] at colon
    simp only [hasPair_cons, Bool.or_eq_false_iff] at comment
    have mark : (c == '#' && blank) = false := by
      cases blank with
      | false => simp
      | true => simpa using first rfl
    have sign : (c == ':' && atGap (cs ++ rest)) = false := by
      cases cs with
      | nil =>
        have other : c ≠ ':' := by simpa [atGap] using colon.1
        simp [other]
      | cons d cs => exact colon.1
    have more : plainLine false (isSpace c) (cs ++ rest) = some (cs, rest) := by
      refine ih inside.2 colon.2 comment.2 fun space head => ?_
      simp [space, head] at comment
    rw [List.cons_append, plainLine]
    simp [inside.1, mark, sign, more]

theorem trimEnd_of_getLast? (h : ∀ c ∈ cs.getLast?, isSpace c = false) : trimEnd cs = cs := by
  rcases List.eq_nil_or_concat' cs with rfl | ⟨front, last, rfl⟩
  · rfl
  · have stays : isSpace last = false := h last (by simp)
    simp [trimEnd, stays]

/-! ## Texts -/

/-- What `canBePlain` says of a text's characters. -/
structure Unmarked (cs : List Char) : Prop where
  printable : ∀ c ∈ cs, isPrintable c = true ∧ isBreak c = false
  first : cs.head? ≠ some ' '
  last : cs.getLast? ≠ some ' '
  sign : beginsWithSign cs = false
  colon : hasColon cs = false
  comment : hasPair (fun c => isSpace c || isBreak c) (· == '#') cs = false

theorem unmarked_of_canBePlain (h : canBePlain cs = true) : Unmarked cs := by
  simp only [canBePlain, Bool.and_eq_true, Bool.not_eq_true', List.all_eq_true, bne_iff_ne] at h
  obtain ⟨⟨⟨⟨⟨⟨printable, first⟩, last⟩, sign⟩, -⟩, colon⟩, comment⟩ := h
  exact ⟨printable, first, last, sign, colon, comment⟩

theorem isSpace_of_isPrintable (printable : isPrintable c = true) (space : c ≠ ' ') :
    isSpace c = false := by
  have tab : c ≠ '\t' := by
    rintro rfl
    cases printable
  simp [isSpace, space, tab]

theorem isSpace_of_isAsciiLetter (letter : isAsciiLetter c = true) : isSpace c = false := by
  have other {d : Char} := ne_of_isAsciiLetter (d := d) letter
  simp [isSpace, other (d := ' ') rfl, other (d := '\t') rfl]

theorem nextLine_replicate (letter : isAsciiLetter c = true) (indent column k : Nat) :
    nextLine indent column (List.replicate k ' ' ++ c :: cs) = ([], column + k, c :: cs) := by
  induction k generalizing column with
  | zero =>
    have space : ¬(c = ' ' ∨ (c = '\t' ∧ indent ≤ column)) := by
      rintro (rfl | ⟨rfl, -⟩) <;> cases letter
    rw [List.replicate_zero, List.nil_append, nextLine,
      if_neg (by rw [isBreak_of_isAsciiLetter letter]; decide), if_neg space, Nat.add_zero]
  | succ k ih =>
    rw [List.replicate_succ, List.cons_append, nextLine, if_neg (by decide), if_pos (.inl rfl), ih,
      Nat.add_right_comm, Nat.add_assoc]

/-- What stands outside does not continue a plain scalar. -/
theorem continues_outside {indent : Nat} (outside : Outside indent rest) :
    continues false indent (nextLine indent 0 rest).2.1 (nextLine indent 0 rest).2.2 = false := by
  rcases outside with rfl | ⟨k, c, cs, small, letter, rfl⟩
  · rfl
  · rw [nextLine_replicate letter, Nat.zero_add]
    simp [continues, Nat.not_le.2 small]

/-- A plain scalar that fills its line ends there, since nothing deeper follows. -/
theorem plain_of_canBePlain (h : canBePlain cs = true) {indent : Nat} (outside : Outside indent rest)
    (fuel : Nat) :
    plain false indent (fuel + 1) (cs ++ '\n' :: rest) = some (cs, '\n' :: rest) := by
  have text := unmarked_of_canBePlain h
  have line : plainLine false true (cs ++ '\n' :: rest) = some (cs, '\n' :: rest) := by
    refine plainLine_append (fun c hc => (text.printable c hc).2) text.colon text.comment ?_ ?_
    · intro _ head
      have sign := text.sign
      cases cs with
      | nil => cases head
      | cons c cs =>
        cases head
        cases sign
    · intro blank
      rfl
  have trimmed : trimEnd cs = cs := by
    refine trimEnd_of_getLast? fun c hc => ?_
    have space : c ≠ ' ' := by
      rintro rfl
      exact text.last hc
    exact isSpace_of_isPrintable (text.printable c (List.mem_of_getLast? hc)).1 space
  simp [plain, line, trimmed, continues_outside outside]

/-- A text that can be plain begins with no sign of the notation. -/
theorem Unmarked.ne_sign (h : Unmarked (c :: cs))
    (sign : "#,[]\x7b\x7d&*!|>'\"%@`".toList.contains d = true) : c ≠ d := by
  rintro rfl
  have other := h.sign
  rw [beginsWithSign, sign] at other
  cases other

/-- Nor does it begin with a sign that has a meaning before white space. -/
theorem Unmarked.atGap_eq_false (h : Unmarked (c :: cs)) (sign : c = '?' ∨ c = ':' ∨ c = '-') :
    atGap cs = false := by
  have other := h.sign
  simp only [beginsWithSign, Bool.or_eq_false_iff] at other
  rcases sign with rfl | rfl | rfl <;> simpa using other.2

/-- A text that can be plain begins a plain scalar. -/
theorem startsPlain_of_canBePlain (h : canBePlain (c :: cs) = true) (rest : List Char) :
    startsPlain false (c :: (cs ++ '\n' :: rest)) = true := by
  have text := unmarked_of_canBePlain h
  obtain ⟨printable, line⟩ := text.printable c List.mem_cons_self
  have blank : isSpace c = false :=
    isSpace_of_isPrintable printable fun h => text.first (congrArg some h)
  have after : atGap (cs ++ '\n' :: rest) = atGap cs := by cases cs <;> rfl
  by_cases dash : c = '-'
  · subst dash
    simp [startsPlain, after, text.atGap_eq_false]
  by_cases question : c = '?'
  · subst question
    simp [startsPlain, after, text.atGap_eq_false]
  by_cases colon : c = ':'
  · subst colon
    simp [startsPlain, after, text.atGap_eq_false]
  have other {d : Char} := text.ne_sign (d := d)
  have flow : isFlowMark c = false := by
    simp [isFlowMark, other (d := ',') rfl, other (d := '[') rfl, other (d := ']') rfl,
      other (d := '\x7b') rfl, other (d := '\x7d') rfl]
  rw [startsPlain]
  · simp [blank, line, flow, other]
  all_goals simp [dash, question, colon]

/-! ## Keys -/

/-- Whether a text is a key that stands for itself: letters and underscores, a letter first, and not
too many. -/
def isKey (cs : List Char) : Bool :=
  cs.head?.any isAsciiLetter && cs.all (fun c => isAsciiLetter c || c == '_') && cs.length ≤ maxKey

theorem exists_letter (h : isKey cs = true) : ∃ c ds, isAsciiLetter c = true ∧ cs = c :: ds := by
  simp only [isKey, Bool.and_eq_true] at h
  cases cs with
  | nil => cases h.1.1
  | cons c ds => exact ⟨c, ds, h.1.1, rfl⟩

theorem isPrintable_of_isKey (h : isKey cs = true) (inside : c ∈ cs) : isPrintable c = true := by
  simp only [isKey, Bool.and_eq_true, List.all_eq_true] at h
  have sign := h.1.2 c inside
  simp only [isAsciiLetter, Bool.or_eq_true, Bool.and_eq_true, decide_eq_true_eq, beq_iff_eq] at sign
  have between {low high : Char} (lower : low ≤ c) (upper : c ≤ high) (first : 0x20 ≤ low.toNat)
      (last : high.toNat ≤ 0x7e) : isPrintable c = true := by
    have first : 0x20 ≤ c.toNat := Nat.le_trans first lower
    have last : c.toNat ≤ 0x7e := Nat.le_trans upper last
    simp [isPrintable, first, last]
  rcases sign with (⟨low, high⟩ | ⟨low, high⟩) | rfl
  · exact between low high (by decide) (by decide)
  · exact between low high (by decide) (by decide)
  · decide

theorem hasColon_eq_false (h : ':' ∉ cs) : hasColon cs = false := by
  induction cs with
  | nil => rfl
  | cons c cs ih =>
    obtain ⟨other, more⟩ := not_or.1 (List.mem_cons.not.1 h)
    simp [hasColon, ih more, Ne.symm other]

theorem hasPair_eq_false {p q : Char → Bool} (h : ∀ c ∈ cs, q c = false) : hasPair p q cs = false := by
  induction cs with
  | nil => rfl
  | cons c cs ih =>
    rw [List.forall_mem_cons] at h
    rw [hasPair_cons, ih h.2, Bool.or_false]
    cases cs with
    | nil => simp
    | cons d cs => simp [h.2 d List.mem_cons_self]

/-! A letter begins a plain scalar and no mark. -/

section

variable (letter : isAsciiLetter c = true)
include letter

theorem startsPlain_letter : startsPlain false (c :: cs) = true := by
  have signs : ",[]\x7b\x7d#&*!|>'\"%@`".toList.all (fun d => !isAsciiLetter d) = true := by decide
  have other : ∀ d ∈ ",[]\x7b\x7d#&*!|>'\"%@`".toList, c ≠ d := fun d hd =>
    ne_of_isAsciiLetter letter (by simpa using List.all_eq_true.1 signs d hd)
  simp only [String.reduceToList, List.forall_mem_cons] at other
  rw [startsPlain]
  · simp [isSpace_of_isAsciiLetter letter, isBreak_of_isAsciiLetter letter, isFlowMark, other]
  all_goals
    rintro rfl
    cases letter

theorem properties?_letter : properties? (c :: cs) = none := by
  rw [properties?]
  all_goals
    rintro _ ⟨⟩
    cases letter

theorem bareKey?_letter (named : List (String × Yaml)) :
    bareKey? named (c :: cs) = (plainLine false true (c :: cs)).map fun (text, rest) =>
      scalarOf true named (trimEnd text, rest) := by
  have other {d : Char} := ne_of_isAsciiLetter (d := d) letter
  rw [bareKey?]
  · simp [startsPlain_letter letter, other (d := '[') rfl, other (d := '\x7b') rfl,
      other (d := '"') rfl, other (d := '\'') rfl]
  · rintro rfl
    cases letter

end

section

variable (h : isKey cs = true)
include h

theorem ne_of_mem_key (inside : c ∈ cs) (other : (isAsciiLetter d || d == '_') = false) : c ≠ d := by
  simp only [isKey, Bool.and_eq_true, List.all_eq_true] at h
  rintro rfl
  rw [h.1.2 c inside] at other
  cases other

theorem isBreak_of_mem_key (inside : c ∈ cs) : isBreak c = false := by
  have other {d : Char} := ne_of_mem_key (d := d) h inside
  simp [isBreak, other (d := '\n') rfl, other (d := '\u2028') rfl, other (d := '\u2029') rfl]

theorem plainLine_key (gap : atGap rest = true) :
    plainLine false true (cs ++ ':' :: rest) = some (cs, ':' :: rest) := by
  refine plainLine_append (fun c inside => isBreak_of_mem_key h inside)
    (hasColon_eq_false fun inside => ne_of_mem_key h inside rfl rfl)
    (hasPair_eq_false fun c inside => ?_) (fun _ head => ?_) fun blank => ?_
  · simp [ne_of_mem_key (d := '#') h inside rfl]
  · exact ne_of_mem_key h (List.mem_of_head? head) rfl rfl
  · rw [plainLine, gap]
    rfl

theorem trimEnd_key : trimEnd cs = cs := by
  refine trimEnd_of_getLast? fun c last => ?_
  have other {d : Char} := ne_of_mem_key (d := d) h (List.mem_of_getLast? last)
  simp [isSpace, other (d := ' ') rfl, other (d := '\t') rfl]

theorem bareKey?_key (gap : atGap rest = true) (named : List (String × Yaml)) :
    bareKey? named (cs ++ ':' :: rest) =
      some ⟨scalar true none (String.ofList cs), named, ':' :: rest⟩ := by
  obtain ⟨c, ds, letter, rfl⟩ := exists_letter h
  rw [List.cons_append, bareKey?_letter letter, ← List.cons_append, plainLine_key h gap,
    Option.map_some]
  simp only [trimEnd_key h, scalarOf]

end

/-- No line ends before what remains after characters of one line. -/
theorem sameLine_append (inside : ∀ c ∈ cs, isBreak c = false) (rest : List Char) :
    sameLine (cs ++ rest) rest = true := by
  have length : (cs ++ rest).length - rest.length = cs.length := by
    rw [List.length_append]
    omega
  rw [sameLine, length, List.take_left]
  simpa using inside

/-- A key is read up to its colon. -/
theorem key?_append (h : isKey cs = true) (gap : atGap rest = true)
    (named : List (String × Yaml)) :
    key? named (cs ++ ':' :: rest) = some ⟨scalar true none (String.ofList cs), named, rest⟩ := by
  have unmarked : properties? (cs ++ ':' :: rest) = none := by
    obtain ⟨c, ds, letter, rfl⟩ := exists_letter h
    exact properties?_letter letter
  have colon : (':' :: rest).dropWhile isSpace = ':' :: rest := rfl
  have line : sameLine (cs ++ ':' :: rest) rest = true := by
    have inside : ∀ c ∈ cs ++ [':'], isBreak c = false := by
      simpa [or_imp, forall_and, isBreak] using fun c inside => isBreak_of_mem_key h inside
    simpa using sameLine_append inside rest
  have short : (cs ++ ':' :: rest).length - rest.length ≤ maxKey + 1 := by
    simp only [isKey, Bool.and_eq_true, decide_eq_true_eq] at h
    rw [List.length_append, List.length_cons]
    omega
  simp only [key?, unmarked, bareKey?_key h gap, Option.bind_eq_bind, Option.bind_some, colon, gap,
    line, short]
  rfl

end Yaml

end JsonShape
