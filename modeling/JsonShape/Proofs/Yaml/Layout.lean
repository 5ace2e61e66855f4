import JsonShape.Proofs.Yaml.Block

/-!
# Mappings by columns read back

The lines of entries are read as a mapping if what stands after each colon is read as the value there
(`entries?_lines`), in a section behind a key (`isRead_section`) as well as for a whole text
(`ofText?_lines`).

What follows is told by `Outside`: it begins further left, so it belongs neither to the value nor to
the mapping. A value leaves the end of its last line, or nothing at the end of the text (`Remains`).
-/

set_option autoImplicit false

namespace JsonShape

namespace Yaml

variable {c : Char} {cs rest r : List Char} {bound column cost fuel k : Nat} {v : Yaml}
  {named : List (String × Yaml)}

/-! ## Places at the start of a line -/

/-- The next place from the start of a line on. -/
def lineStart (cs : List Char) : Spot := toToken false true false 0 cs

theorem next_line (cs : List Char) : next ('\n' :: cs) = lineStart cs := rfl

theorem toToken_replicate (letter : isAsciiLetter c = true) (column k : Nat) :
    toToken false true false column (List.replicate k ' ' ++ c :: cs) = ⟨true, column + k, c :: cs⟩ := by
  induction k generalizing column with
  | zero =>
    have other {d : Char} := ne_of_isAsciiLetter (d := d) letter
    simp [toToken, isBreak_of_isAsciiLetter letter, other (d := '#') rfl, other (d := ' ') rfl,
      other (d := '\t') rfl]
  | succ k ih =>
    rw [List.replicate_succ, List.cons_append, toToken, if_neg (by decide),
      if_neg Bool.false_ne_true, if_neg (by decide), if_pos (.inl rfl), ih, Nat.add_right_comm,
      Nat.add_assoc]

theorem lineStart_letter (letter : isAsciiLetter c = true) (k : Nat) :
    lineStart (List.replicate k ' ' ++ c :: cs) = ⟨true, k, c :: cs⟩ := by
  rw [lineStart, toToken_replicate letter, Nat.zero_add]

theorem isEnd_letter (letter : isAsciiLetter c = true) (k : Nat) :
    Spot.isEnd ⟨true, k, c :: cs⟩ = false := by
  have marker : atMarker (c :: cs) = false := by
    rw [atMarker]
    all_goals
      rintro _ ⟨⟩
      cases letter
  simp [Spot.isEnd, marker]

theorem isSign_letter (letter : isAsciiLetter c = true) {sign : Char}
    (other : isAsciiLetter sign = false) (column k : Nat) :
    Spot.isSign sign column ⟨true, k, c :: cs⟩ = false := by
  simp [Spot.isSign, ne_of_isAsciiLetter letter other]

theorem isWithin_letter (letter : isAsciiLetter c = true) (k : Nat) (bound : Int) :
    Spot.isWithin bound ⟨true, k, c :: cs⟩ = decide ((k : Int) ≤ bound) := by
  simp [Spot.isWithin, isEnd_letter letter]

/-! ## Values -/

/-- What remains after a value: the end of its last line, which at the end of the text may have been
read. -/
def Remains (rest r : List Char) : Prop := r = '\n' :: rest ∨ (rest = [] ∧ r = [])

/-- After a value its mapping ends, if what follows stands outside of it. -/
theorem isWithin_next (remains : Remains rest r) (outside : Outside column rest) :
    (next r).isWithin ((column : Int) - 1) = true := by
  rcases remains with rfl | ⟨rfl, rfl⟩
  · rw [next_line]
    rcases outside with rfl | ⟨k, c, cs, small, letter, rfl⟩
    · rfl
    · rw [lineStart_letter letter, isWithin_letter letter, decide_eq_true_eq]
      omega
  · rfl

/-- Characters after a colon, up to the end of a line, are read as a value in an entry at a column,
whatever stands outside of it. -/
def Stands (column cost : Nat) (text : List Char) (v : Yaml) : Prop :=
  ∀ (named : List (String × Yaml)) (fuel : Nat) (rest : List Char), cost ≤ fuel →
    Outside (column + 1) rest → ∃ r, Remains rest r ∧
      value? column named fuel (next (text ++ rest)) (text ++ rest) = some ⟨v, named, r⟩

/-! ## Entries -/

/-- An entry: its key, the characters after its colon, and its value. -/
structure Entry where
  key : List Char
  text : List Char
  value : Yaml

namespace Entry

/-- The lines of an entry at a column. -/
def chars (column : Nat) (e : Entry) : List Char :=
  List.replicate column ' ' ++ e.key ++ ':' :: e.text

/-- The entry in a mapping. -/
def pair (e : Entry) : Yaml × Yaml := (scalar true none (String.ofList e.key), e.value)

/-- The lines of an entry are read as the entry. -/
structure IsRead (column cost : Nat) (e : Entry) : Prop where
  key : isKey e.key = true
  gap : ∀ rest, atGap (e.text ++ rest) = true
  printable : ∀ c ∈ e.text, isPrintable c = true
  value : Stands column cost e.text e.value

theorem IsRead.mono {column cost cost' : Nat} {e : Entry} (h : e.IsRead column cost)
    (le : cost ≤ cost') : e.IsRead column cost' where
  key := h.key
  gap := h.gap
  printable := h.printable
  value named fuel rest enough outside := h.value named fuel rest (le.trans enough) outside

end Entry

/-- The lines of entries at a column. -/
def linesOf (column : Nat) (es : List Entry) : List Char := es.flatMap (Entry.chars column)

variable {e : Entry} {es : List Entry}

/-- Entries begin with a letter at their column. -/
theorem exists_linesOf (column : Nat) (es : List Entry) (key : isKey e.key = true)
    (rest : List Char) :
    ∃ c cs, isAsciiLetter c = true ∧
      linesOf column (e :: es) ++ rest = List.replicate column ' ' ++ c :: cs ∧
      c :: cs = e.key ++ ':' :: (e.text ++ (linesOf column es ++ rest)) := by
  obtain ⟨c, ds, letter, same⟩ := exists_letter key
  refine ⟨c, ds ++ ':' :: (e.text ++ (linesOf column es ++ rest)), letter, ?_, ?_⟩
  · simp [linesOf, Entry.chars, same]
  · simp [same]

/-- An entry is read from its key on, and its value up to what stands outside. -/
theorem entry?_line (read : e.IsRead column cost) (letter : isAsciiLetter c = true)
    (line : c :: cs = e.key ++ ':' :: (e.text ++ rest)) (outside : Outside (column + 1) rest)
    (enough : cost < fuel) :
    ∃ r, Remains rest r ∧
      entry? column named fuel ⟨true, column, c :: cs⟩ = some ⟨e.pair, named, r⟩ := by
  obtain ⟨fuel, rfl⟩ := Nat.exists_eq_succ_of_ne_zero (Nat.ne_zero_of_lt enough)
  obtain ⟨r, remains, value⟩ := read.value named fuel rest (Nat.le_of_lt_succ enough) outside
  have key := key?_append read.key (read.gap rest) named
  refine ⟨r, remains, ?_⟩
  rw [ entry?, isSign_letter letter rfl, if_neg Bool.false_ne_true, line, key]
  simp [value, Entry.pair]

/-- The lines of entries are read as the entries, up to what stands outside of them. -/
theorem entries?_lines (named : List (String × Yaml)) (holds : es ≠ [])
    (read : ∀ e ∈ es, e.IsRead column cost) (outside : Outside column rest)
    (enough : es.length + cost < fuel) :
    ∃ r, Remains rest r ∧ entries? column named fuel (lineStart (linesOf column es ++ rest)) =
      some ⟨es.map Entry.pair, named, r⟩ := by
  induction es generalizing fuel with
  | nil => cases holds rfl
  | cons e es ih =>
    rw [List.forall_mem_cons] at read
    rw [List.length_cons] at enough
    obtain ⟨fuel, rfl⟩ := Nat.exists_eq_succ_of_ne_zero (Nat.ne_zero_of_lt enough)
    obtain ⟨c, cs, letter, whole, line⟩ := exists_linesOf column es read.1.key rest
    -- The value ends where the next entry begins or, after the last one, where the mapping does: both
    -- stand outside of the value.
    have first {below : List Char} (line : c :: cs = e.key ++ ':' :: (e.text ++ below))
        (outside : Outside (column + 1) below) : ∃ r, Remains below r ∧
          entry? column named fuel ⟨true, column, c :: cs⟩ = some ⟨e.pair, named, r⟩ :=
      entry?_line read.1 letter line outside (by omega)
    rw [whole, lineStart_letter letter, entries?]
    cases es with
    | nil =>
      obtain ⟨r, remains, entry⟩ := first line (outside.mono (Nat.le_succ column))
      refine ⟨r, remains, ?_⟩
      simp [entry, isWithin_next remains outside]
    | cons e' es =>
      obtain ⟨c', cs', letter', whole', -⟩ :=
        exists_linesOf column es (read.2 e' List.mem_cons_self).key rest
      obtain ⟨r', remains', entry⟩ := first line
        (.inr ⟨column, c', cs', Nat.lt_succ_self column, letter', whole'⟩)
      have after : next r' = lineStart (linesOf column (e' :: es) ++ rest) := by
        rcases remains' with rfl | ⟨nothing, -⟩
        · exact next_line _
        · simp [whole'] at nothing
      obtain ⟨r, remains, more⟩ := ih (by simp) read.2 (by omega : _ < fuel)
      rw [whole', lineStart_letter letter'] at more after
      have within : Spot.isWithin ((column : Int) - 1) ⟨true, column, c' :: cs'⟩ = false := by
        rw [isWithin_letter letter', decide_eq_false_iff_not]
        omega
      refine ⟨r, remains, ?_⟩
      simp [entry, after, within, more]

/-! ## Mappings -/

/-- Where a key stands at the start of a line, a mapping begins. -/
theorem node?_key (letter : isAsciiLetter c = true) (key : (key? named (c :: cs)).isSome = true)
    (outer : Int) :
    node? outer named (fuel + 1) ⟨true, column, c :: cs⟩ =
      (entries? column named fuel ⟨true, column, c :: cs⟩).map (Reading.map mapping) := by
  rw [node?, isSign_letter letter rfl, if_neg Bool.false_ne_true, isSign_letter letter rfl, key]
  simp

/-- The lines of entries are read as a mapping. -/
theorem node?_lines (named : List (String × Yaml)) (holds : es ≠ [])
    (read : ∀ e ∈ es, e.IsRead column cost) (outside : Outside column rest)
    (enough : es.length + cost + 1 < fuel) (outer : Int) :
    ∃ r, Remains rest r ∧ node? outer named fuel (lineStart (linesOf column es ++ rest)) =
      some ⟨mapping (es.map Entry.pair), named, r⟩ := by
  obtain ⟨fuel, rfl⟩ := Nat.exists_eq_succ_of_ne_zero (Nat.ne_zero_of_lt enough)
  obtain ⟨r, remains, entries⟩ := entries?_lines named holds read outside (by omega : _ < fuel)
  obtain ⟨e, es, rfl⟩ := List.exists_cons_of_ne_nil holds
  have first := read e List.mem_cons_self
  obtain ⟨c, cs, letter, whole, line⟩ := exists_linesOf column es first.key rest
  have key : (key? named (c :: cs)).isSome = true := by
    rw [line, key?_append first.key (first.gap _)]
    rfl
  refine ⟨r, remains, ?_⟩
  rw [whole, lineStart_letter letter] at entries ⊢
  rw [node?_key letter key, entries]
  rfl

theorem isPrintable_of_mem_linesOf (read : ∀ e ∈ es, e.IsRead column cost)
    (h : c ∈ linesOf column es) : isPrintable c = true := by
  obtain ⟨e, he, h⟩ := List.mem_flatMap.1 h
  simp only [Entry.chars, List.mem_append, List.mem_cons] at h
  rcases h with (space | key) | colon | text
  · rw [List.eq_of_mem_replicate space]
    decide
  · exact isPrintable_of_isKey (read e he).key key
  · rw [colon]
    decide
  · exact (read e he).printable c text

/-- A section behind a key: a mapping in the lines below, further right. -/
theorem isRead_section {key : List Char} (h : isKey key = true) (holds : es ≠ []) {deeper : Nat}
    (right : column < deeper) (read : ∀ e ∈ es, e.IsRead deeper cost) :
    Entry.IsRead column (es.length + cost + 3)
      ⟨key, '\n' :: linesOf deeper es, mapping (es.map Entry.pair)⟩ where
  key := h
  gap _ := rfl
  printable c inside := by
    rcases List.mem_cons.1 inside with rfl | inside
    · decide
    · exact isPrintable_of_mem_linesOf read inside
  value named fuel rest enough outside := by
    obtain ⟨fuel, rfl⟩ := Nat.exists_eq_succ_of_ne_zero (Nat.ne_zero_of_lt (Nat.lt_of_succ_le enough))
    obtain ⟨r, remains, node⟩ := node?_lines named holds read (outside.mono right)
      (by omega : _ < fuel) column
    obtain ⟨e, es, rfl⟩ := List.exists_cons_of_ne_nil holds
    obtain ⟨c, cs, letter, whole, -⟩ := exists_linesOf deeper es (read e List.mem_cons_self).key rest
    refine ⟨r, remains, ?_⟩
    have within : Spot.isWithin (column : Int) ⟨true, deeper, c :: cs⟩ = false := by
      rw [isWithin_letter letter, decide_eq_false_iff_not]
      omega
    rw [List.cons_append, next_line]
    rw [whole, lineStart_letter letter] at node ⊢
    rw [value?, isSign_letter letter rfl, if_neg Bool.false_ne_true, within,
      if_neg Bool.false_ne_true, node]

/-! ## Documents -/

/-- A document that begins with a letter has no directives and no mark of its start. -/
theorem start?_letter (letter : isAsciiLetter c = true) :
    start? (c :: cs) = some ⟨true, 0, c :: cs⟩ := by
  have first : toToken false true false 0 (c :: cs) = ⟨true, 0, c :: cs⟩ :=
    toToken_replicate letter 0 0
  have directive : c ≠ '%' := ne_of_isAsciiLetter letter rfl
  have dash : c ≠ '-' := ne_of_isAsciiLetter letter rfl
  simp only [start?, first, afterDirectives?, List.head?_cons, Option.some.injEq, directive, false_and,
    if_false, Option.bind_eq_bind, Option.bind_some, if_true]
  split
  · next h =>
    cases h
    exact absurd rfl dash
  · rfl

/-- A document of entries. -/
theorem document?_lines (holds : es ≠ []) (read : ∀ e ∈ es, e.IsRead 0 cost)
    (enough : es.length + cost ≤ 8 * (linesOf 0 es).length) :
    document? (linesOf 0 es) = some (mapping (es.map Entry.pair)) := by
  obtain ⟨r, remains, node⟩ := node?_lines [] holds read (.inl rfl)
    (by omega : _ < 8 * (linesOf 0 es).length + 8) (-1)
  obtain ⟨e, es, rfl⟩ := List.exists_cons_of_ne_nil holds
  obtain ⟨c, cs, letter, whole, -⟩ := exists_linesOf 0 es (read e List.mem_cons_self).key []
  rw [List.append_nil, List.replicate_zero, List.nil_append] at whole
  have start : start? (c :: cs) = some ⟨true, 0, c :: cs⟩ := start?_letter letter
  have finished : isFinished (r.length + 1) (next r) = true := by
    rcases remains with rfl | ⟨-, rfl⟩ <;> rfl
  have first : lineStart (c :: cs) = ⟨true, 0, c :: cs⟩ := toToken_replicate letter 0 0
  rw [List.append_nil, whole, first] at node
  rw [whole]
  simp only [document?, start, Option.bind_eq_bind, Option.bind_some, isEnd_letter letter,
    Bool.false_eq_true, if_false, node, finished, if_true]

theorem isAllowed_of_isPrintable (h : isPrintable c = true) : isAllowed c = true := by
  simp only [isPrintable, isAllowed, Bool.or_eq_true, Bool.and_eq_true, beq_iff_eq,
    decide_eq_true_eq] at h ⊢
  omega

theorem normalBreaks_printable (printable : ∀ c ∈ cs, isPrintable c = true) : normalBreaks cs = cs := by
  induction cs with
  | nil => rfl
  | cons c cs ih =>
    rw [List.forall_mem_cons] at printable
    have other (d : Char) (h : isPrintable d = false) : c ≠ d := by
      rintro rfl
      rw [h] at printable
      cases printable.1
    have line : c ≠ '\r' := other _ rfl
    have next : c ≠ '\u0085' := other _ rfl
    rw [normalBreaks, ih printable.2]
    all_goals simp [line, next]

/-- A text of printable characters is the document that they are. -/
theorem ofText?_printable (printable : ∀ c ∈ cs, isPrintable c = true) :
    ofText? (String.ofList cs) = document? cs := by
  have allowed : cs.all isAllowed = true :=
    List.all_eq_true.2 fun c hc => isAllowed_of_isPrintable (printable c hc)
  have first : ∀ rest, cs ≠ '\ufeff' :: rest := by
    rintro rest rfl
    cases printable _ List.mem_cons_self
  unfold ofText?
  rw [String.toList_ofList]
  split
  · exact absurd rfl (first _)
  · dsimp only
    rw [if_pos allowed, normalBreaks_printable printable]

/-- A text of entries is read as their mapping. -/
theorem ofText?_lines (holds : es ≠ []) (read : ∀ e ∈ es, e.IsRead 0 cost)
    (enough : es.length + cost ≤ 8 * (linesOf 0 es).length) :
    ofText? (String.ofList (linesOf 0 es)) = some (mapping (es.map Entry.pair)) := by
  rw [ofText?_printable fun c hc => isPrintable_of_mem_linesOf read hc,
    document?_lines holds read enough]

end Yaml

end JsonShape
