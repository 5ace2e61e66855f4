import Mathlib.Data.List.TakeWhile
import JsonShape.Proofs.Yaml.Layout

/-!
# Texts as values read back

Whatever the text, the style that is chosen for it is read as a scalar of that text (`stands_textValue`).
It is plain only if the text does not stand for null. Single quotes would fold line feeds, but a text
with a line feed is put in them neither for looking like something else (`not_mem_of_isAmbiguous`) nor
for its marks.
-/

set_option autoImplicit false

namespace JsonShape

namespace Yaml

variable {c : Char} {cs more rest : List Char} {bound column fuel : Nat} {text : String}
  {named : List (String × Yaml)}

/-! ## Texts that look like something else -/

theorem radixValue?_of_mem (h : '\n' ∈ cs) (base : Nat) : radixValue? base cs = none := by
  obtain ⟨front, back, rfl⟩ := List.append_of_mem h
  have digit : hexDigit? '\n' = none := rfl
  rw [radixValue?, List.foldlM_append]
  simp [digit]

theorem mem_of_radix? (h : '\n' ∈ cs) {base : Nat} {digits : List Char}
    (parts : radix? cs = some (base, digits)) : '\n' ∈ digits := by
  unfold radix? at parts
  split at parts <;> simp_all

theorem isRadixInteger_of_mem (h : '\n' ∈ cs) : isRadixInteger cs = false := by
  unfold isRadixInteger
  split
  next negative ds sign =>
  have inside : '\n' ∈ ds := by
    split at sign <;> simp_all
  cases parts : radix? ds with
  | none => rfl
  | some part =>
    have digits := radixValue?_of_mem (mem_of_radix? inside parts) part.1
    simp [digits]

theorem mem_of_span (h : '\n' ∈ cs) {ds : List Char} (parts : cs.span isAsciiDigit = (ds, rest)) :
    '\n' ∈ rest := by
  rw [List.span_eq_takeWhile_dropWhile, Prod.mk.injEq] at parts
  obtain ⟨rfl, rfl⟩ := parts
  rw [← List.takeWhile_append_dropWhile (p := isAsciiDigit) (l := cs), List.mem_append] at h
  refine h.resolve_left fun inside => ?_
  cases List.mem_takeWhile_imp inside

theorem decimal?_of_mem (h : '\n' ∈ cs) : decimal? cs = none := by
  unfold decimal?
  split
  next whole rest front =>
  have inside := mem_of_span h front
  split
  next fraction rest' back =>
  have inside : '\n' ∈ rest' := by
    split at back
    · exact mem_of_span (by simpa using inside) back
    · cases back
      exact inside
  -- The exponent, after its sign, has the line feed.
  have digits (s : Bool × List Char) (inside : '\n' ∈ s.2) :
      (if s.2.isEmpty || !s.2.all isAsciiDigit then none
        else some (whole, fraction, Double.signed s.1 (digitsValue s.2))) = none := by
    have other : s.2.all isAsciiDigit = false := List.all_eq_false.2 ⟨_, inside, by decide⟩
    simp [other]
  cases rest' with
  | nil => cases inside
  | cons e ds =>
    dsimp only
    split
    · split <;> rfl
    split
    · next exponent =>
      have inside : '\n' ∈ ds := by
        rcases List.mem_cons.1 inside with rfl | inside
        · rcases exponent with h | h <;> cases h
        · exact inside
      refine digits _ ?_
      split <;> simp_all
    · rfl

theorem isDecimal_of_mem (h : '\n' ∈ cs) : isDecimal cs = false := by
  unfold isDecimal
  split <;> simp_all [decimal?_of_mem]

/-- What looks like null, a flag or a number has no line feed. -/
theorem not_mem_of_isAmbiguous (h : isAmbiguous text = true) : '\n' ∉ text.toList := by
  intro feed
  have words (words : List String) (h : ∀ word ∈ words, '\n' ∉ word.toList) :
      words.contains text = false := by
    rw [Bool.eq_false_iff, ne_eq, List.contains_iff_mem]
    exact fun inside => h text inside feed
  have holds : text.isEmpty = false := by
    rw [Bool.eq_false_iff, ne_eq, String.isEmpty_iff]
    rintro rfl
    cases feed
  rw [isAmbiguous, isNull, holds, words _ (by decide), words _ (by decide), isNumeric,
    isRadixInteger_of_mem feed, isDecimal_of_mem feed, words _ (by decide)] at h
  cases h

/-! ## Scalars in the line of their key -/

theorem next_space (space : isSpace c = false) (line : isBreak c = false) (comment : c ≠ '#') :
    next (' ' :: c :: more) = ⟨false, 1, c :: more⟩ := by
  have blanks : c ≠ ' ' ∧ c ≠ '\t' := by simpa [isSpace] using space
  have skip : isBreak ' ' = false := rfl
  simp [next, toToken, skip, line, comment, blanks]

/-- A value in the line of its key is a node. -/
theorem value?_inLine (k : Nat) (after : List Char) :
    value? column named (fuel + 1) ⟨false, k, c :: cs⟩ after =
      node? column named fuel ⟨false, k, c :: cs⟩ := by
  simp [value?, Spot.isSign, Spot.isWithin, Spot.isEnd]

theorem node?_quoted (h : c = '"' ∨ c = '\'') (outer : Int) :
    node? outer named (fuel + 1) ⟨false, column, c :: cs⟩ =
      (quoted (c :: cs)).map (scalarOf false named) := by
  rcases h with rfl | rfl <;> simp [node?, Spot.isSign]

theorem node?_block (outer : Int) :
    node? outer named (fuel + 1) ⟨false, column, '|' :: cs⟩ =
      (block outer ('|' :: cs)).map (scalarOf false named) := by
  simp [node?, Spot.isSign]

theorem node?_plain (starts : startsPlain false (c :: cs) = true)
    (other : c ≠ '*' ∧ c ≠ '[' ∧ c ≠ '\x7b' ∧ c ≠ '"' ∧ c ≠ '\'' ∧ c ≠ '|' ∧ c ≠ '>') (outer : Int) :
    node? outer named (fuel + 1) ⟨false, column, c :: cs⟩ =
      (plain false (outer + 1).toNat ((c :: cs).length + 1) (c :: cs)).map (scalarOf true named) := by
  rw [node?]
  simp [Spot.isSign, starts, other]

/-- A scalar in the line of its key stands for its text, if it is read up to the end of its last line
where nothing that belongs to it follows. -/
theorem stands_scalar {plain : Bool} (space : isSpace c = false) (line : isBreak c = false)
    (comment : c ≠ '#')
    (node : ∀ named fuel rest, Outside (column + 1) rest → ∃ r, Remains rest r ∧
      node? column named (fuel + 1) ⟨false, 1, c :: (more ++ rest)⟩ =
        some ⟨scalar plain none text, named, r⟩) :
    Stands column 2 (' ' :: c :: more) (scalar plain none text) := by
  intro named fuel rest enough outside
  obtain ⟨fuel, rfl⟩ := Nat.exists_eq_add_of_le' enough
  obtain ⟨r, remains, read⟩ := node named fuel rest outside
  refine ⟨r, remains, ?_⟩
  rw [List.cons_append, List.cons_append, next_space space line comment, value?_inLine, read]

/-- A text that can be plain stands for itself. -/
theorem stands_plain (h : canBePlain cs = true) (holds : cs ≠ []) :
    Stands column 2 (' ' :: (cs ++ ['\n'])) (scalar true none (String.ofList cs)) := by
  have text := unmarked_of_canBePlain h
  obtain ⟨c, ds, rfl⟩ := List.exists_cons_of_ne_nil holds
  obtain ⟨printable, line⟩ := text.printable c List.mem_cons_self
  have space : isSpace c = false :=
    isSpace_of_isPrintable printable fun h => text.first (congrArg some h)
  have comment : c ≠ '#' := by
    rintro rfl
    cases text.sign
  rw [List.cons_append]
  refine stands_scalar space line comment fun named fuel rest outside => ⟨'\n' :: rest, .inl rfl, ?_⟩
  have whole : c :: (ds ++ ['\n'] ++ rest) = c :: ds ++ '\n' :: rest := by simp
  have starts := startsPlain_of_canBePlain h rest
  have other {d : Char} := text.ne_sign (d := d)
  have indent : ((column : Int) + 1).toNat = column + 1 := by omega
  rw [whole, List.cons_append,
    node?_plain starts ⟨other rfl, other rfl, other rfl, other rfl, other rfl, other rfl, other rfl⟩,
    ← List.cons_append, indent, plain_of_canBePlain h outside]
  rfl

/-- What is read as a quoted scalar stands for it. -/
theorem stands_of_quoted {written : List Char}
    (opens : written.head? = some '"' ∨ written.head? = some '\'')
    (read : ∀ rest, quoted (written ++ '\n' :: rest) = some (cs, '\n' :: rest)) :
    Stands column 2 (' ' :: (written ++ ['\n'])) (scalar false none (String.ofList cs)) := by
  obtain ⟨c, ds, rfl⟩ : ∃ c ds, written = c :: ds :=
    List.exists_cons_of_ne_nil (by rintro rfl; rcases opens with h | h <;> cases h)
  simp only [List.head?_cons, Option.some.injEq] at opens
  have space : isSpace c = false := by rcases opens with rfl | rfl <;> rfl
  have line : isBreak c = false := by rcases opens with rfl | rfl <;> rfl
  have comment : c ≠ '#' := by rcases opens with rfl | rfl <;> decide
  rw [List.cons_append]
  refine stands_scalar space line comment fun named fuel rest outside => ⟨'\n' :: rest, .inl rfl, ?_⟩
  have whole : c :: (ds ++ ['\n'] ++ rest) = c :: ds ++ '\n' :: rest := by simp
  rw [whole, List.cons_append, node?_quoted opens, ← List.cons_append, read]
  rfl

theorem stands_doubleQuoted (cs : List Char) :
    Stands column 2 (' ' :: (inDoubleQuotes cs ++ ['\n'])) (scalar false none (String.ofList cs)) :=
  stands_of_quoted (.inl rfl) fun rest => quoted_inDoubleQuotes cs ('\n' :: rest)

/-- A text of one line stands for itself in quotes. -/
theorem stands_quoted (line : '\n' ∉ cs) :
    Stands column 2 (' ' :: (inQuotes cs ++ ['\n'])) (scalar false none (String.ofList cs)) := by
  refine stands_of_quoted ?_ fun rest => quoted_inQuotes line (by simp)
  unfold inQuotes
  split
  · exact .inr rfl
  · exact .inl rfl

/-- A text in lines stands for itself. -/
theorem stands_block (h : canBeBlock cs = true) :
    Stands 2 2 (' ' :: asBlock cs) (scalar false none (String.ofList cs)) := by
  obtain ⟨body, whole⟩ : ∃ body, asBlock cs = '|' :: body := ⟨_, rfl⟩
  rw [whole]
  refine stands_scalar rfl rfl (by decide) fun named fuel rest outside => ?_
  refine ⟨if rest.isEmpty then [] else '\n' :: rest, ?_, ?_⟩
  · cases rest with
    | nil => exact .inr ⟨rfl, rfl⟩
    | cons c cs => exact .inl rfl
  · have read : block (2 : Nat) (asBlock cs ++ rest) = _ := block_asBlock h (outside.mono (by decide))
    rw [whole, List.cons_append] at read
    rw [node?_block, read]
    rfl

/-- Any text is written as a value that is read as the text, and as one that is not null. -/
theorem stands_textValue (text : String) :
    ∃ plain, Stands 2 2 (' ' :: textValue text) (scalar plain none text) ∧
      (plain = true → isNull text = false) := by
  have same : String.ofList text.toList = text := String.ofList_toList
  have marked {written : List Char}
      (h : Stands 2 2 written (scalar false none (String.ofList text.toList))) :
      ∃ plain, Stands 2 2 written (scalar plain none text) ∧ (plain = true → isNull text = false) :=
    ⟨false, same ▸ h, fun h => nomatch h⟩
  unfold textValue
  dsimp only
  split_ifs with ambiguous feed lines plain
  · exact marked (stands_quoted (not_mem_of_isAmbiguous ambiguous))
  · exact marked (stands_block lines)
  · exact marked (stands_doubleQuoted _)
  · have other : isNull text = false := by
      simp only [isAmbiguous, Bool.or_eq_true, not_or, Bool.not_eq_true] at ambiguous
      exact ambiguous.1.1
    have holds : text.toList ≠ [] := by
      intro nothing
      rw [String.toList_eq_nil_iff] at nothing
      exact absurd other (by rw [nothing]; decide)
    have read : Stands 2 2 (' ' :: (text.toList ++ ['\n']))
        (scalar true none (String.ofList text.toList)) := stands_plain plain holds
    rw [same] at read
    exact ⟨true, read, fun _ => other⟩
  · exact marked (stands_quoted (by simpa using feed))

theorem isPrintable_of_mem_textValue (h : c ∈ textValue text) : isPrintable c = true := by
  have line (h : c ∈ ['\n']) : isPrintable c = true := by
    rw [List.mem_singleton.1 h]
    decide
  unfold textValue at h
  simp only at h
  split_ifs at h with ambiguous feed lines plain
  · exact (List.mem_append.1 h).elim isPrintable_of_mem_inQuotes line
  · exact isPrintable_of_mem_asBlock lines h
  · exact (List.mem_append.1 h).elim isPrintable_of_mem_inDoubleQuotes line
  · exact (List.mem_append.1 h).elim (fun h => ((unmarked_of_canBePlain plain).printable c h).1) line
  · exact (List.mem_append.1 h).elim isPrintable_of_mem_inQuotes line

end Yaml

end JsonShape
