import JsonShape.Proofs.Text.Digits
import JsonShape.Proofs.Yaml.Plain

/-!
# Blocks read back

A text that can be a block is read back from `asBlock`, with what stands outside of the block left
(`block_asBlock`). The lines that are written are `rows` of the text, each with the break that ends it;
the last one gets a line feed if it has no break, and the header tells whether that is part of the
text.
-/

set_option autoImplicit false

namespace JsonShape

namespace Yaml

variable {c d : Char} {cs ds line rest : List Char}

/-! ## Lines -/

/-- The lines of a text of which `line` has been read, each with the break that ends it, a line feed
if the last one has none. -/
def rows (line : List Char) : List Char → List (List Char × Option Char)
  | [] => if line.isEmpty then [] else [(line, some '\n')]
  | c :: cs => if isBreak c then (line, some c) :: rows [] cs else rows (line ++ [c]) cs

theorem length_rows_le (line cs : List Char) :
    (rows line cs).length ≤ cs.length + if line.isEmpty then 0 else 1 := by
  induction cs generalizing line with
  | nil =>
    rw [rows]
    split <;> simp
  | cons c cs ih =>
    rw [rows]
    split
    · have := ih []
      simp only [List.isEmpty_nil, if_true, List.length_cons] at this ⊢
      omega
    · have := ih (line ++ [c])
      simp at this ⊢
      omega

/-- The lines hold the text, and a line feed after it if it does not end with a break. -/
theorem flatMap_rows (line cs : List Char) :
    (rows line cs).flatMap (fun row => row.1 ++ row.2.toList) =
      line ++ cs ++ if endsLine line.isEmpty cs then [] else ['\n'] := by
  induction cs generalizing line with
  | nil =>
    rw [rows, endsLine]
    cases line <;> simp
  | cons c cs ih =>
    rw [rows, endsLine]
    by_cases ends : isBreak c = true
    · rw [if_pos ends, List.flatMap_cons, ih, ends]
      simp
    · have unfinished : (line ++ [c]).isEmpty = false := by simp
      rw [if_neg ends, ih, unfinished, Bool.eq_false_iff.2 ends]
      simp only [List.append_assoc, List.cons_append, List.nil_append]

/-- The last line of a text that goes on in it is not empty. -/
theorem rows_append (line : List Char) {tail : List Char} {last : Char} (inside : isBreak d = false)
    (h : ∀ line, line ≠ [] → rows line tail = [(line, some last)]) :
    ∃ front text, text ≠ [] ∧ rows line (ds ++ d :: tail) = front ++ [(text, some last)] := by
  induction ds generalizing line with
  | nil =>
    refine ⟨[], line ++ [d], by simp, ?_⟩
    rw [List.nil_append, rows, inside, if_neg Bool.false_ne_true, h _ (by simp), List.nil_append]
  | cons c ds ih =>
    rw [List.cons_append, rows]
    split
    · obtain ⟨front, text, some, same⟩ := ih []
      exact ⟨(line, _) :: front, text, some, by rw [same]; rfl⟩
    · exact ih (line ++ [c])

/-! ## Reading lines -/

theorem dropSpaces_margin : dropSpaces 4 (margin ++ cs) = (cs, 0) := by
  cases cs <;> rfl

theorem dropSpaces_of_ne (h : c ≠ ' ') (n : Nat) : dropSpaces n (c :: cs) = (c :: cs, n) := by
  cases n with
  | zero => rfl
  | succ n =>
    rw [dropSpaces]
    simp [h]

theorem dropSpaces_replicate (h : c ≠ ' ') (k n : Nat) :
    dropSpaces (k + n) (List.replicate k ' ' ++ c :: cs) = (c :: cs, n) := by
  induction k with
  | zero => rw [Nat.zero_add]; exact dropSpaces_of_ne h n
  | succ k ih =>
    rw [Nat.succ_add]
    exact ih

theorem linesOfBlock?_outside (outside : Outside 4 rest) (fuel : Nat) :
    linesOfBlock? 4 (fuel + 1) rest = some ([], rest) := by
  rcases outside with rfl | ⟨k, c, cs, small, letter, rfl⟩
  · rfl
  · have space : c ≠ ' ' := ne_of_isAsciiLetter letter rfl
    have tab : c ≠ '\t' := ne_of_isAsciiLetter letter rfl
    have drop : dropSpaces (k + (4 - k)) (List.replicate k ' ' ++ c :: cs) = (c :: cs, 4 - k) :=
      dropSpaces_replicate space k (4 - k)
    rw [Nat.add_sub_cancel' (by omega)] at drop
    rw [linesOfBlock?, drop]
    simp only [isBreak_of_isAsciiLetter letter, tab, if_false, Bool.false_eq_true]
    rw [if_neg (by omega)]

/-- A line of a block. An empty one has no white space in front. -/
theorem linesOfBlock?_row (inside : ∀ c ∈ line, isBreak c = false) (ends : isBreak d = true)
    (fuel : Nat) :
    linesOfBlock? 4 (fuel + 1) ((if line.isEmpty then [] else margin ++ line) ++ d :: rest) =
      (linesOfBlock? 4 fuel rest).map fun (lines, after) => ((line, some d) :: lines, after) := by
  cases line with
  | nil =>
    have space : d ≠ ' ' := by rintro rfl; cases ends
    rw [List.isEmpty_nil, if_pos rfl, List.nil_append, linesOfBlock?, dropSpaces_of_ne space]
    simp only [ends, if_true]
  | cons c cs =>
    have first : isBreak c = false := inside c List.mem_cons_self
    have whole : (c :: cs ++ d :: rest).span (fun e => !isBreak e) = (c :: cs, d :: rest) :=
      span_append (fun e he => by rw [inside e he]; rfl) (by simp [ends])
    rw [List.cons_append] at whole
    rw [List.isEmpty_cons, if_neg Bool.false_ne_true, List.append_assoc, linesOfBlock?,
      dropSpaces_margin]
    simp only [List.cons_append, first, whole, if_true, Bool.false_eq_true, if_false]

/-- Lines behind white space are read up to what stands outside of the block. -/
theorem linesOfBlock?_indented (inside : ∀ c ∈ line, isBreak c = false) (outside : Outside 4 rest)
    {fuel : Nat} (enough : (rows line cs).length < fuel) :
    linesOfBlock? 4 fuel ((if line.isEmpty then [] else margin ++ line) ++
      (indented line.isEmpty cs ++ ((if endsLine line.isEmpty cs then [] else ['\n']) ++ rest))) =
        some (rows line cs, rest) := by
  induction cs generalizing line fuel with
  | nil =>
    obtain ⟨fuel, rfl⟩ := Nat.exists_eq_succ_of_ne_zero (Nat.ne_zero_of_lt enough)
    by_cases holds : line = []
    · subst holds
      exact linesOfBlock?_outside outside fuel
    · have full : line.isEmpty = false := by simpa using holds
      rw [rows, full] at enough ⊢
      have more : 0 < fuel := Nat.lt_of_succ_lt_succ enough
      obtain ⟨fuel, rfl⟩ := Nat.exists_eq_succ_of_ne_zero more.ne'
      have last : linesOfBlock? 4 (fuel + 1 + 1) (_ ++ '\n' :: rest) = _ :=
        linesOfBlock?_row inside rfl (fuel + 1)
      rw [linesOfBlock?_outside outside, full] at last
      simpa [indented, endsLine] using last
  | cons c cs ih =>
    -- A line is taken where its break comes; until then the characters go over into `line`.
    rw [rows] at enough ⊢
    rw [indented, endsLine]
    by_cases ends : isBreak c = true
    · obtain ⟨fuel, rfl⟩ := Nat.exists_eq_succ_of_ne_zero (Nat.ne_zero_of_lt enough)
      rw [if_pos ends] at enough ⊢
      rw [if_pos ends, ends]
      have more := ih (List.forall_mem_nil _) (Nat.lt_of_succ_lt_succ enough)
      rw [List.isEmpty_nil, if_pos rfl, List.nil_append] at more
      rw [List.cons_append, linesOfBlock?_row inside ends, more]
      rfl
    · have unfinished : (line ++ [c]).isEmpty = false := by simp
      rw [if_neg ends] at enough ⊢
      rw [if_neg ends, Bool.eq_false_iff.2 ends]
      have longer : ∀ d ∈ line ++ [c], isBreak d = false := by
        simpa [or_imp, forall_and, ends] using inside
      have more := ih longer enough
      rw [unfinished, if_neg Bool.false_ne_true] at more
      rw [← more]
      cases line <;> simp

/-! ## The text of lines -/

/-- What a literal block of lines stands for. -/
def textOf (chomp : Chomp) (raw : List (List Char × Option Char)) : List Char :=
  let (blanks, lines) := blockLines raw
  (if lines.isEmpty then [] else blanks) ++ joinLines true lines ++
    chomp.ending blanks lines.getLast?

theorem joinLines_append_ending (lines : List BlockLine) (blanks : List Char) :
    (if lines.isEmpty then [] else blanks) ++ joinLines true lines ++
      Chomp.keep.ending blanks lines.getLast? =
        blanks ++ lines.flatMap fun line => line.text ++ line.ending ++ line.blanks := by
  induction lines generalizing blanks with
  | nil => simp [joinLines, Chomp.ending]
  | cons line lines ih =>
    cases lines with
    | nil => simp [joinLines, Chomp.ending]
    | cons next lines =>
      have more := ih []
      simp only [List.isEmpty_cons, Bool.false_eq_true, if_false, List.nil_append] at more
      rw [List.flatMap_cons, ← more]
      simp [joinLines, BlockLine.gap, Chomp.ending, List.getLast?_cons]

theorem flatMap_blockLines (raw : List (List Char × Option Char)) :
    (blockLines raw).1 ++ (blockLines raw).2.flatMap
      (fun line => line.text ++ line.ending ++ line.blanks) =
        raw.flatMap fun row => row.1 ++ row.2.toList := by
  induction raw with
  | nil => rfl
  | cons row raw ih =>
    obtain ⟨text, ending⟩ := row
    rw [List.flatMap_cons, ← ih, blockLines]
    by_cases holds : text = []
    · simp [holds]
    · simp [holds]

/-- With all breaks at the end kept, lines stand for what they hold. -/
theorem textOf_keep (raw : List (List Char × Option Char)) :
    textOf .keep raw = raw.flatMap fun row => row.1 ++ row.2.toList := by
  rw [← flatMap_blockLines, ← joinLines_append_ending]
  rfl

/-- The last line, if it is not empty, has no blank lines after it. -/
theorem getLast?_blockLines (front : List (List Char × Option Char)) {text : List Char}
    (holds : text ≠ []) (ending : Option Char) :
    (blockLines (front ++ [(text, ending)])).2.getLast? = some ⟨text, ending.toList, []⟩ := by
  induction front with
  | nil => simp [blockLines, holds]
  | cons row front ih =>
    obtain ⟨before, ends⟩ := row
    rw [List.cons_append, blockLines]
    cases before with
    | nil => exact ih
    | cons c cs =>
      simp only [List.isEmpty_cons, Bool.false_eq_true, if_false, List.getLast?_cons, ih]
      rfl

/-- The sign of a `Chomp` in a header. -/
def Chomp.sign : Chomp → List Char
  | strip => ['-']
  | clip => []
  | keep => ['+']

theorem endsLine_append_singleton (fresh : Bool) (cs : List Char) (c : Char) :
    endsLine fresh (cs ++ [c]) = isBreak c := by
  induction cs generalizing fresh with
  | nil => rfl
  | cons d cs ih => exact ih (isBreak d)

/-- Below a last line that is not empty it does not matter whether only its own break is kept. -/
theorem textOf_of_last (front : List (List Char × Option Char)) {text : List Char}
    (holds : text ≠ []) (last : Char) :
    textOf .clip (front ++ [(text, some last)]) = textOf .keep (front ++ [(text, some last)]) ∧
    textOf .strip (front ++ [(text, some last)]) ++ [last] =
      textOf .keep (front ++ [(text, some last)]) := by
  simp [textOf, Chomp.ending, getLast?_blockLines front holds]

/-- The lines of a text stand for the text if its header says what to do with the break at its end. -/
theorem exists_chomp (holds : cs ≠ []) :
    ∃ chomp : Chomp, chompSign cs = chomp.sign ∧ textOf chomp (rows [] cs) = cs := by
  have kept := textOf_keep (rows [] cs)
  rw [flatMap_rows, List.nil_append, List.isEmpty_nil] at kept
  obtain ⟨ds, c, rfl⟩ := (List.eq_nil_or_concat' cs).resolve_left holds
  rw [endsLine_append_singleton] at kept
  -- With everything kept, the lines stand for the text and the line feed that they add to it. The other
  -- signs are written only where the last line is not empty.
  cases ends : isBreak c with
  | false =>
    rw [ends, if_neg Bool.false_ne_true] at kept
    obtain ⟨front, text, full, same⟩ :
        ∃ front text, text ≠ [] ∧ rows [] (ds ++ [c]) = front ++ [(text, some '\n')] :=
      rows_append [] ends fun line h => by simp [rows, h]
    rw [same, ← (textOf_of_last front full '\n').2] at kept
    refine ⟨.strip, ?_, ?_⟩
    · rw [chompSign, List.reverse_append]
      cases ds.reverse <;> simp [ends, Chomp.sign]
    · rw [same]
      exact List.append_cancel_right kept
  | true =>
    rw [ends, if_pos rfl, List.append_nil] at kept
    rcases List.eq_nil_or_concat' ds with rfl | ⟨es, d, rfl⟩
    · exact ⟨.keep, by simp [chompSign, ends, Chomp.sign], kept⟩
    cases inside : isBreak d with
    | true => exact ⟨.keep, by simp [chompSign, ends, inside, Chomp.sign], kept⟩
    | false =>
      obtain ⟨front, text, full, same⟩ :
          ∃ front text, text ≠ [] ∧ rows [] (es ++ [d, c]) = front ++ [(text, some c)] :=
        rows_append [] inside fun line h => by simp [rows, ends]
      rw [List.append_assoc, List.singleton_append] at kept ⊢
      refine ⟨.clip, by simp [chompSign, ends, inside, Chomp.sign], ?_⟩
      rw [same] at kept ⊢
      rw [(textOf_of_last front full c).1, kept]

/-! ## The header -/

theorem header?_sign (chomp : Chomp) (given : Bool) (body : List Char) :
    header? ('|' :: ((if given then ['2'] else []) ++ chomp.sign ++ '\n' :: body)) =
      some (⟨true, chomp, if given then some 2 else none⟩, body) := by
  cases chomp <;> cases given <;> cases body <;> rfl

/-- The column of a first line that begins with something else than white space. -/
theorem blockColumn?_margin (space : c ≠ ' ') (tab : c ≠ '\t') (ends : isBreak c = false) :
    blockColumn? 0 0 (margin ++ c :: cs) = some 4 := by
  simp [margin, List.replicate, blockColumn?, space, tab, ends]

theorem length_le_indented (fresh : Bool) (cs : List Char) :
    cs.length ≤ (indented fresh cs).length := by
  induction cs generalizing fresh with
  | nil => exact Nat.zero_le _
  | cons c cs ih =>
    rw [indented]
    split
    · have := ih true
      simp only [List.length_cons]
      omega
    · have := ih false
      simp only [List.length_append, List.length_cons]
      omega

/-- A text in lines is read as the text, and what stands outside of it remains, behind the end of the
last line. -/
theorem block_asBlock (h : canBeBlock cs = true) (outside : Outside 4 rest) :
    block 2 (asBlock cs ++ rest) = some (cs, if rest.isEmpty then [] else '\n' :: rest) := by
  simp only [canBeBlock, Bool.and_eq_true, Bool.not_eq_true', List.isEmpty_eq_false_iff] at h
  obtain ⟨⟨⟨holds, printable⟩, -⟩, -⟩ := h
  obtain ⟨chomp, sign, text⟩ := exists_chomp holds
  set given := cs.head?.any fun c => c == ' ' || isBreak c with hint
  obtain ⟨body, hbody⟩ : ∃ body, body = indented true cs ++
    ((if endsLine true cs then [] else ['\n']) ++ rest) := ⟨_, rfl⟩
  have header : header? (asBlock cs ++ rest) =
      some (⟨true, chomp, if given then some 2 else none⟩, body) := by
    have closing : endsLine true cs = endsLine false cs := by
      cases cs with
      | nil => cases holds rfl
      | cons c cs => rfl
    have split : asBlock cs ++ rest =
        '|' :: ((if given then ['2'] else []) ++ chomp.sign ++ '\n' :: body) := by
      simp [asBlock, ← hint, sign, hbody, closing, getLast?_any_isBreak]
    rw [split, header?_sign]
  have lines : linesOfBlock? 4 (body.length + 1) body = some (rows [] cs, rest) := by
    have enough : (rows [] cs).length < body.length + 1 := by
      have := length_rows_le [] cs
      have := length_le_indented true cs
      simp only [hbody, List.length_append, List.isEmpty_nil, if_true] at *
      omega
    have read := linesOfBlock?_indented (List.forall_mem_nil _) outside enough
    rwa [List.isEmpty_nil, if_pos rfl, List.nil_append, ← hbody] at read
  have column (free : given = false) : blockColumn? 0 0 body = some 4 := by
    obtain ⟨c, ds, rfl⟩ := List.exists_cons_of_ne_nil holds
    have free : c ≠ ' ' ∧ isBreak c = false := by simpa [hint] using free
    have tab : c ≠ '\t' := by
      rintro rfl
      cases (List.all_eq_true.1 printable) _ List.mem_cons_self
    rw [hbody, indented, if_neg (Bool.eq_false_iff.1 free.2), if_pos rfl, List.append_assoc]
    exact blockColumn?_margin free.1 tab free.2
  cases free : given with
  | true =>
    rw [free] at header
    simpa [block, header, lines, textOf] using text
  | false =>
    rw [free] at header
    simpa [block, header, column free, lines, textOf] using text

theorem isPrintable_of_mem_asBlock (h : canBeBlock cs = true) (inside : c ∈ asBlock cs) :
    isPrintable c = true := by
  simp only [canBeBlock, Bool.and_eq_true, Bool.not_eq_true', List.isEmpty_eq_false_iff] at h
  obtain ⟨⟨⟨holds, printable⟩, -⟩, -⟩ := h
  obtain ⟨chomp, sign, -⟩ := exists_chomp holds
  have signs : chomp.sign.all isPrintable = true := by cases chomp <;> decide
  simp only [asBlock, sign, List.mem_append, List.mem_cons] at inside
  rcases inside with (((rfl | inside) | inside) | (rfl | inside)) | inside
  · decide
  · split at inside
    · rw [List.mem_singleton.1 inside]
      decide
    · cases inside
  · exact List.all_eq_true.1 signs c inside
  · decide
  · rcases mem_indented inside with rfl | inside
    · decide
    · exact List.all_eq_true.1 printable c inside
  · split at inside
    · cases inside
    · rw [List.mem_singleton.1 inside]
      decide

end Yaml

end JsonShape
