import Mathlib.Data.String.Basic
import JsonShape.Yaml.Printer
import JsonShape.Yaml.Scalar

/-!
# Quoted scalars read back

A text in double quotes is read back whatever it is (`quoted_inDoubleQuotes`), one in single quotes if
it can be quoted and has no line feed (`quoted_inSingleQuotes`), which such a scalar would fold.

White space is not read at once: what a `Gap` stands for is decided by what follows. So both
statements are proved for a text after a gap: blanks that have been read and not yet given out, or
the breaks after a line (`Gap.text` is what they stand for).
-/

set_option autoImplicit false

namespace JsonShape

namespace Yaml

/-! ## Breaks and white space -/

theorem isBreak_iff {c : Char} : isBreak c = true ↔ c = '\n' ∨ c = '\u2028' ∨ c = '\u2029' := by
  simp [isBreak, or_assoc]

theorem isSpace_of_isBreak {c : Char} (line : isBreak c = true) : isSpace c = false := by
  rcases isBreak_iff.1 line with rfl | rfl | rfl <;> rfl

/-- In lines with white space in front nothing stands that is not in the text, but blanks. -/
theorem mem_indented {fresh : Bool} {c : Char} {cs : List Char} (h : c ∈ indented fresh cs) :
    c = ' ' ∨ c ∈ cs := by
  induction cs generalizing fresh with
  | nil => cases h
  | cons d cs ih =>
    rw [indented] at h
    split at h
    · rcases List.mem_cons.1 h with rfl | h
      · exact .inr List.mem_cons_self
      · exact (ih h).imp_right (List.mem_cons_of_mem d)
    · rcases List.mem_append.1 h with front | h
      · split at front
        · exact .inl (List.eq_of_mem_replicate front)
        · cases front
      · rcases List.mem_cons.1 h with rfl | h
        · exact .inr List.mem_cons_self
        · exact (ih h).imp_right (List.mem_cons_of_mem d)

/-! ## Hexadecimal digits -/

/-- A hexadecimal digit in upper case. -/
def capital (c : Char) : Char := if 'a' ≤ c ∧ c ≤ 'f' then Char.ofNat (c.toNat - 32) else c

theorem hexDigit?_capital : ∀ d < 16, hexDigit? (capital (Nat.digitChar d)) = some d := by decide

theorem isPrintable_capital : ∀ d < 16, isPrintable (capital (Nat.digitChar d)) = true := by decide

theorem hexadecimal_eq (width n : Nat) : hexadecimal width n =
    List.replicate (width - (Nat.toDigits 16 n).length) '0' ++ (Nat.toDigits 16 n).map capital := by
  rw [hexadecimal, List.length_map]
  rfl

theorem exists_of_mem_toDigits {n : Nat} {c : Char} (h : c ∈ Nat.toDigits 16 n) :
    ∃ d < 16, c = Nat.digitChar d := by
  induction n using Nat.strongRecOn with
  | ind n ih =>
    rw [Nat.toDigits_eq_if (by decide)] at h
    split at h
    · next small => exact ⟨n, small, List.mem_singleton.1 h⟩
    · rcases List.mem_append.1 h with front | last
      · exact ih (n / 16) (by omega) front
      · exact ⟨n % 16, Nat.mod_lt n (by decide), List.mem_singleton.1 last⟩

theorem radixValue?_append_singleton (ds : List Char) {c : Char} {d : Nat} (small : d < 16)
    (h : hexDigit? c = some d) :
    radixValue? 16 (ds ++ [c]) = (radixValue? 16 ds).map fun n => 16 * n + d := by
  rw [radixValue?, List.foldlM_append, ← radixValue?]
  cases radixValue? 16 ds with
  | none => rfl
  | some n => simp [h, small]

theorem radixValue?_toDigits (n : Nat) :
    radixValue? 16 ((Nat.toDigits 16 n).map capital) = some n := by
  induction n using Nat.strongRecOn with
  | ind n ih =>
    rw [Nat.toDigits_eq_if (by decide)]
    split
    · next small =>
      rw [List.map_singleton, ← List.nil_append [_],
        radixValue?_append_singleton [] small (hexDigit?_capital n small)]
      simp [radixValue?]
    · have small : n % 16 < 16 := Nat.mod_lt n (by decide)
      rw [List.map_append, List.map_singleton,
        radixValue?_append_singleton _ small (hexDigit?_capital _ small), ih (n / 16) (by omega),
        Option.map_some]
      congr 1
      omega

theorem radixValue?_zeros (k : Nat) (ds : List Char) :
    radixValue? 16 (List.replicate k '0' ++ ds) = radixValue? 16 ds := by
  induction k with
  | zero => rfl
  | succ k ih =>
    rw [← ih, List.replicate_succ, List.cons_append, radixValue?, List.foldlM_cons]
    rfl

/-- The digits of a character's code point are read as the character. -/
theorem codePoint?_hexadecimal (width : Nat) (c : Char) :
    codePoint? (hexadecimal width c.toNat) = some c := by
  have value : radixValue? 16 (hexadecimal width c.toNat) = some c.toNat := by
    rw [hexadecimal_eq, radixValue?_zeros, radixValue?_toDigits]
  simp [codePoint?, value, Char.ofNat_toNat]

theorem length_hexadecimal {width n : Nat} (positive : 0 < width) (h : n < 16 ^ width) :
    (hexadecimal width n).length = width := by
  have fits := (Nat.length_toDigits_le_iff (by decide) positive).2 h
  rw [hexadecimal_eq, List.length_append, List.length_replicate, List.length_map]
  omega

theorem isPrintable_of_mem_hexadecimal {width n : Nat} {c : Char} (h : c ∈ hexadecimal width n) :
    isPrintable c = true := by
  rw [hexadecimal_eq, List.mem_append, List.mem_map] at h
  rcases h with zero | ⟨d, hd, rfl⟩
  · rw [List.eq_of_mem_replicate zero]
    decide
  · obtain ⟨k, small, rfl⟩ := exists_of_mem_toDigits hd
    exact isPrintable_capital k small

/-! ## Double quotes -/

variable {gap : Gap} {c letter : Char} {cs rest more : List Char}

theorem doubleQuoted_letter (h : escaped? letter = some c) (hx : letter ≠ 'x') (hu : letter ≠ 'u')
    (hU : letter ≠ 'U') (line : isBreak letter = false) :
    doubleQuoted gap ('\\' :: letter :: more) = before (gap.text ++ [c]) (doubleQuoted .none more) := by
  rw [doubleQuoted]
  · simp [line, h]
  all_goals simp_all

theorem doubleQuoted_char (escape : c ≠ '\\') (quote : c ≠ '"') (blank : isSpace c = false)
    (line : isBreak c = false) :
    doubleQuoted gap (c :: more) = before (gap.text ++ [c]) (doubleQuoted .none more) := by
  rw [doubleQuoted]
  · simp [quote, blank, line]
  all_goals simp [escape]

theorem doubleQuoted_space :
    doubleQuoted gap (' ' :: more) = doubleQuoted (gap.space ' ') more := rfl

theorem doubleQuoted_quote : doubleQuoted gap ('"' :: more) = some (gap.text, more) := rfl

/-- The letter of an escape stands for the character, and not for a number of digits or a break. -/
theorem escaped?_of_escapeLetter? (h : escapeLetter? c = some letter) :
    escaped? letter = some c ∧ letter ≠ 'x' ∧ letter ≠ 'u' ∧ letter ≠ 'U' ∧
      isBreak letter = false ∧ isPrintable letter = true := by
  by_cases named : c ∈ ['\x00', '\x07', '\x08', '\t', '\n', '\x0b', '\x0c', '\r', '\x1b', '"', '\\',
      '\u0085', '\u2028', '\u2029']
  · simp only [List.mem_cons, List.not_mem_nil, or_false] at named
    rcases named with rfl | rfl | rfl | rfl | rfl | rfl | rfl | rfl | rfl | rfl | rfl | rfl | rfl | rfl
    all_goals
      cases h
      decide
  · simp only [List.mem_cons, List.not_mem_nil, or_false, not_or] at named
    simp [escapeLetter?, named] at h

/-- What has no letter is no quote, backslash or break, and no blank but a space. -/
theorem ne_of_escapeLetter? (h : escapeLetter? c = none) :
    c ≠ '\\' ∧ c ≠ '"' ∧ isBreak c = false ∧ (c ≠ ' ' → isSpace c = false) := by
  have named (d : Char) (some : (escapeLetter? d).isSome = true) : c ≠ d := by
    rintro rfl
    rw [h] at some
    cases some
  have line : isBreak c = false := by
    simp [isBreak, named '\n' rfl, named '\u2028' rfl, named '\u2029' rfl]
  exact ⟨named _ rfl, named _ rfl, line, fun space => by simp [isSpace, space, named '\t' rfl]⟩

/-- An escape of two, four or eight digits stands for the character of that code point. -/
theorem doubleQuoted_x {ds : List Char} (length : ds.length = 2) (value : codePoint? ds = some c) :
    doubleQuoted gap ('\\' :: 'x' :: (ds ++ more)) =
      before (gap.text ++ [c]) (doubleQuoted .none more) := by
  match ds, length with
  | [_, _], _ =>
    exact congrArg (Option.bind · _) value

theorem doubleQuoted_u {ds : List Char} (length : ds.length = 4) (value : codePoint? ds = some c) :
    doubleQuoted gap ('\\' :: 'u' :: (ds ++ more)) =
      before (gap.text ++ [c]) (doubleQuoted .none more) := by
  match ds, length with
  | [_, _, _, _], _ =>
    exact congrArg (Option.bind · _) value

theorem doubleQuoted_U {ds : List Char} (length : ds.length = 8) (value : codePoint? ds = some c) :
    doubleQuoted gap ('\\' :: 'U' :: (ds ++ more)) =
      before (gap.text ++ [c]) (doubleQuoted .none more) := by
  match ds, length with
  | [_, _, _, _, _, _, _, _], _ =>
    exact congrArg (Option.bind · _) value

/-- An escaped character other than a space comes after what the gap stands for. -/
theorem doubleQuoted_escape (h : c ≠ ' ') :
    doubleQuoted gap (escape c ++ more) = before (gap.text ++ [c]) (doubleQuoted .none more) := by
  unfold escape
  cases found : escapeLetter? c with
  | some letter =>
    obtain ⟨same, hx, hu, hU, line, -⟩ := escaped?_of_escapeLetter? found
    exact doubleQuoted_letter same hx hu hU line
  | none =>
    obtain ⟨escape, quote, line, blank⟩ := ne_of_escapeLetter? found
    simp only
    split_ifs with printable byte short
    · exact doubleQuoted_char escape quote (blank h) line
    · exact doubleQuoted_x (length_hexadecimal (by decide) (by omega)) (codePoint?_hexadecimal 2 c)
    · exact doubleQuoted_u (length_hexadecimal (by decide) (by omega)) (codePoint?_hexadecimal 4 c)
    · have bounded : c.toNat < 16 ^ 8 := c.val.toNat_lt
      exact doubleQuoted_U (length_hexadecimal (by decide) bounded) (codePoint?_hexadecimal 8 c)

/-- After blanks that have been read and not yet given out, the blanks come before the text. -/
theorem doubleQuoted_flatMap_escape (read : List Char) :
    doubleQuoted (.blanks read) (cs.flatMap escape ++ '"' :: rest) =
      some (read.reverse ++ cs, rest) := by
  induction cs generalizing read with
  | nil =>
    rw [List.append_nil]
    exact doubleQuoted_quote
  | cons c cs ih =>
    rw [List.flatMap_cons, List.append_assoc]
    by_cases space : c = ' '
    · subst space
      have plain : escape ' ' = [' '] := by decide
      rw [plain, List.singleton_append, doubleQuoted_space, Gap.space, ih, List.reverse_cons,
        List.append_assoc, List.singleton_append]
    · rw [doubleQuoted_escape space, Gap.none, ih]
      simp [before, Gap.text]

theorem quoted_inDoubleQuotes (cs rest : List Char) :
    quoted (inDoubleQuotes cs ++ rest) = some (cs, rest) := by
  rw [inDoubleQuotes, List.append_assoc, List.cons_append, quoted, List.singleton_append, Gap.none,
    doubleQuoted_flatMap_escape, List.reverse_nil, List.nil_append]

theorem isPrintable_of_mem_escape (h : letter ∈ escape c) : isPrintable letter = true := by
  unfold escape at h
  cases found : escapeLetter? c with
  | some name =>
    simp only [found, List.mem_cons, List.not_mem_nil, or_false] at h
    rcases h with rfl | rfl
    · decide
    · exact (escaped?_of_escapeLetter? found).2.2.2.2.2
  | none =>
    have digits {sign : Char} {width : Nat} (sure : isPrintable sign = true)
        (h : letter ∈ '\\' :: sign :: hexadecimal width c.toNat) : isPrintable letter = true := by
      simp only [List.mem_cons] at h
      rcases h with rfl | rfl | digit
      · decide
      · exact sure
      · exact isPrintable_of_mem_hexadecimal digit
    simp only [found] at h
    split_ifs at h with printable byte short
    · rwa [List.mem_singleton.1 h]
    · exact digits (by decide) h
    · exact digits (by decide) h
    · exact digits (by decide) h

theorem isPrintable_of_mem_inDoubleQuotes (h : c ∈ inDoubleQuotes cs) : isPrintable c = true := by
  simp only [inDoubleQuotes, List.mem_append, List.mem_cons, List.mem_flatMap, List.not_mem_nil,
    or_false] at h
  rcases h with (rfl | ⟨d, -, inside⟩) | rfl
  · decide
  · exact isPrintable_of_mem_escape inside
  · decide

/-! ## Single quotes -/

theorem hasPair_cons (p q : Char → Bool) (c : Char) (cs : List Char) :
    hasPair p q (c :: cs) = ((p c && cs.head?.any q) || hasPair p q cs) := by
  cases cs with
  | nil => simp [hasPair]
  | cons d cs => rfl

/-- Whether a line has just ended after a text, if `fresh` tells so before it. -/
def endsLine (fresh : Bool) : List Char → Bool
  | [] => fresh
  | c :: cs => endsLine (isBreak c) cs

theorem getLast?_any_isBreak (cs : List Char) : cs.getLast?.any isBreak = endsLine false cs := by
  have last (c : Char) (cs : List Char) : (c :: cs).getLast?.any isBreak = endsLine (isBreak c) cs := by
    induction cs generalizing c with
    | nil => rfl
    | cons d cs ih => rw [List.getLast?_cons_cons, ih, endsLine]
  cases cs with
  | nil => rfl
  | cons c cs => exact last c cs

/-- A quote twice, any other character once. -/
def doubled (c : Char) : List Char := if c = '\'' then ['\'', '\''] else [c]

/-- What stands between single quotes: white space in front of every line that is not empty and in
front of the closing quote, each quote twice. -/
def spread (fresh : Bool) : List Char → List Char
  | [] => if fresh then margin else []
  | c :: cs =>
    if isBreak c then c :: spread true cs
    else (if fresh then margin else []) ++ doubled c ++ spread false cs

theorem indented_doubled (fresh : Bool) (cs : List Char) :
    indented fresh (cs.flatMap doubled) ++ (if endsLine fresh cs then margin else []) =
      spread fresh cs := by
  induction cs generalizing fresh with
  | nil => rfl
  | cons c cs ih =>
    rw [List.flatMap_cons, endsLine, spread, ← ih, ← ih]
    by_cases line : isBreak c = true
    · have single : doubled c = [c] := if_neg (by rintro rfl; cases line)
      simp [single, indented, line]
    · by_cases quote : c = '\''
      · simp [doubled, quote, indented, isBreak]
      · simp [doubled, quote, indented, line]

theorem inSingleQuotes_eq (cs : List Char) :
    inSingleQuotes cs = '\'' :: (spread false cs ++ ['\'']) := by
  rw [inSingleQuotes, getLast?_any_isBreak, ← indented_doubled]
  simp only [List.cons_append]
  rfl

theorem singleQuoted_doubled (blank : isSpace c = false) (line : isBreak c = false) :
    singleQuoted gap (doubled c ++ more) = before (gap.text ++ [c]) (singleQuoted .none more) := by
  unfold doubled
  split_ifs with quote
  · rw [quote]
    rfl
  · rw [List.singleton_append, singleQuoted]
    · simp [quote, blank, line]
    · simp [quote]

theorem singleQuoted_space :
    singleQuoted gap (' ' :: more) = singleQuoted (gap.space ' ') more := rfl

theorem singleQuoted_break (line : isBreak c = true) (marker : atMarker more = false) :
    singleQuoted gap (c :: more) = singleQuoted (gap.line c) more := by
  have quote : c ≠ '\'' := by
    rintro rfl
    cases line
  rw [singleQuoted]
  · simp [quote, isSpace_of_isBreak line, line, marker]
  · simp [quote]

theorem singleQuoted_quote (stop : rest.head? ≠ some '\'') :
    singleQuoted gap ('\'' :: rest) = some (gap.text, rest) := by
  cases rest with
  | nil => rfl
  | cons c cs =>
    rw [singleQuoted]
    · rfl
    · simpa using stop

/-- White space in front of a line is no part of it. -/
theorem singleQuoted_margin (first : Option Char) (read : List Char) :
    singleQuoted (.broken first read) (margin ++ more) = singleQuoted (.broken first read) more := by
  simp only [margin, List.replicate, List.cons_append, List.nil_append, singleQuoted_space, Gap.space]

/-- The mark of a document's start or end does not stand behind white space. -/
theorem atMarker_spread_true : atMarker (spread true cs ++ '\'' :: rest) = false := by
  cases cs with
  | nil => rfl
  | cons c cs =>
    by_cases line : isBreak c = true
    · rw [spread, if_pos line]
      rcases isBreak_iff.1 line with rfl | rfl | rfl <;> rfl
    · rw [spread, if_neg line]
      rfl

/-- What `canBeQuoted` says of a text's first character, and of the others. -/
theorem canBeQuoted_cons (h : canBeQuoted (c :: cs) = true) :
    (c = ' ' → cs.head?.any isBreak = false) ∧ (isBreak c = true → cs.head? ≠ some ' ') ∧
      c ≠ '\t' ∧ canBeQuoted cs = true := by
  simp only [canBeQuoted, List.all_cons, hasPair_cons, Bool.and_eq_true, Bool.not_eq_true',
    Bool.or_eq_false_iff] at h
  obtain ⟨⟨⟨printable, others⟩, space, spaces⟩, line, lines⟩ := h
  refine ⟨?_, ?_, ?_, ?_⟩
  · rintro rfl
    simpa using space
  · intro ends head
    simp [ends, head] at line
  · rintro rfl
    cases printable
  · simp [canBeQuoted, others, spaces, lines]

/-- What stands between quotes is read as the text. In a line, blanks that have been read come before the
text, which does not go on with a break then. Behind breaks, those that have been read stand for
themselves, since the first of them is no line feed, and the text does not go on with a blank. -/
structure ReadsSpread (rest cs : List Char) : Prop where
  inLine : ∀ read, (read ≠ [] → cs.head?.any isBreak = false) →
    singleQuoted (.blanks read) (spread false cs ++ '\'' :: rest) = some (read.reverse ++ cs, rest)
  behind : ∀ first read, first ≠ '\n' → cs.head? ≠ some ' ' →
    singleQuoted (.broken (some first) read) (spread true cs ++ '\'' :: rest) =
      some (first :: read.reverse ++ cs, rest)

theorem text_broken (h : c ≠ '\n') (read : List Char) :
    (Gap.broken (some c) read).text = c :: read.reverse := if_neg h

namespace ReadsSpread

theorem nil (stop : rest.head? ≠ some '\'') : ReadsSpread rest [] where
  inLine read _ := by
    rw [spread, List.append_nil]
    exact singleQuoted_quote stop
  behind first read h _ := by
    rw [spread, if_pos rfl, singleQuoted_margin, singleQuoted_quote stop, text_broken h,
      List.append_nil]

/-- A break is kept, and what follows it is read behind it. -/
theorem line (h : ReadsSpread rest cs) (ends : isBreak c = true) (feed : c ≠ '\n')
    (fresh : cs.head? ≠ some ' ') : ReadsSpread rest (c :: cs) where
  inLine read none := by
    have nothing : read = [] := by
      by_contra some
      simp [ends] at none
      exact some none
    subst nothing
    rw [spread, if_pos ends, List.cons_append, singleQuoted_break ends atMarker_spread_true]
    exact h.behind c [] feed fresh
  behind first read other _ := by
    rw [spread, if_pos ends, List.cons_append, singleQuoted_break ends atMarker_spread_true, Gap.line,
      h.behind first (c :: read) other fresh]
    simp

/-- A space is kept if the line goes on. -/
theorem space (h : ReadsSpread rest cs) (goesOn : cs.head?.any isBreak = false) :
    ReadsSpread rest (' ' :: cs) where
  inLine read _ := by
    have single : spread false (' ' :: cs) = ' ' :: spread false cs := rfl
    rw [single, List.cons_append, singleQuoted_space, Gap.space, h.inLine _ fun _ => goesOn]
    simp
  behind first read _ start := absurd rfl start

/-- Any other character comes after what the white space before it stands for. -/
theorem char (h : ReadsSpread rest cs) (blank : isSpace c = false) (ends : isBreak c = false) :
    ReadsSpread rest (c :: cs) where
  inLine read _ := by
    have more := h.inLine [] fun some => absurd rfl some
    rw [spread, ends, if_neg Bool.false_ne_true, if_neg Bool.false_ne_true, List.nil_append,
      List.append_assoc, singleQuoted_doubled blank ends, Gap.none, more]
    simp [before, Gap.text]
  behind first read other _ := by
    have more := h.inLine [] fun some => absurd rfl some
    rw [spread, ends, if_neg Bool.false_ne_true, if_pos rfl, List.append_assoc, List.append_assoc,
      singleQuoted_margin, singleQuoted_doubled blank ends, Gap.none, more, text_broken other]
    simp [before]

end ReadsSpread

theorem readsSpread (stop : rest.head? ≠ some '\'') (quotable : canBeQuoted cs = true)
    (feed : '\n' ∉ cs) : ReadsSpread rest cs := by
  induction cs with
  | nil => exact .nil stop
  | cons c cs ih =>
    obtain ⟨goesOn, fresh, tab, quotable⟩ := canBeQuoted_cons quotable
    obtain ⟨other, feed⟩ := not_or.1 (List.mem_cons.not.1 feed)
    specialize ih quotable feed
    cases ends : isBreak c with
    | true => exact ih.line ends (Ne.symm other) (fresh ends)
    | false =>
      by_cases space : c = ' '
      · subst space
        exact ih.space (goesOn rfl)
      · exact ih.char (by simp [isSpace, space, tab]) ends

theorem quoted_inSingleQuotes (quotable : canBeQuoted cs = true) (line : '\n' ∉ cs)
    (stop : rest.head? ≠ some '\'') : quoted (inSingleQuotes cs ++ rest) = some (cs, rest) := by
  have read := (readsSpread stop quotable line).inLine [] fun some => absurd rfl some
  rw [inSingleQuotes_eq, List.cons_append, List.append_assoc, List.singleton_append, quoted,
    Gap.none, read, List.reverse_nil, List.nil_append]

theorem isPrintable_of_mem_inSingleQuotes (quotable : canBeQuoted cs = true)
    (h : c ∈ inSingleQuotes cs) : isPrintable c = true := by
  simp only [canBeQuoted, Bool.and_eq_true, List.all_eq_true] at quotable
  have space : isPrintable ' ' = true := by decide
  have quote : isPrintable '\'' = true := by decide
  simp only [inSingleQuotes, List.mem_append, List.mem_cons, List.not_mem_nil, or_false] at h
  rcases h with ((rfl | body) | closing) | rfl
  · exact quote
  · rcases mem_indented body with rfl | body
    · exact space
    · obtain ⟨d, hd, same⟩ := List.mem_flatMap.1 body
      split_ifs at same with other
      · rw [(by simpa using same : c = '\'')]
        exact quote
      · rw [List.mem_singleton.1 same]
        exact quotable.1.1 d hd
  · split at closing
    · rw [List.eq_of_mem_replicate closing]
      exact space
    · cases closing
  · exact quote

/-! ## Either kind -/

/-- A text in quotes, at the end of a line, is read as the text. -/
theorem quoted_inQuotes (line : '\n' ∉ cs) (stop : rest.head? ≠ some '\'') :
    quoted (inQuotes cs ++ rest) = some (cs, rest) := by
  unfold inQuotes
  split_ifs with quotable
  · exact quoted_inSingleQuotes quotable line stop
  · exact quoted_inDoubleQuotes cs rest

theorem isPrintable_of_mem_inQuotes (h : c ∈ inQuotes cs) : isPrintable c = true := by
  unfold inQuotes at h
  split_ifs at h with quotable
  · exact isPrintable_of_mem_inSingleQuotes quotable h
  · exact isPrintable_of_mem_inDoubleQuotes h

end Yaml

end JsonShape
