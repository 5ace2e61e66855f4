import JsonShape.Proofs.Json.Layout
import JsonShape.Proofs.Json.Rereading

/-!
# Tokens of printed values

`Json.tokens` gives the tokens of a value, its numbers as they are read back, and scanning its text finds
them, whatever blanks the text is laid out with (`scan_layout`). A value may leave its last token open, a numeral or a word: `Scan.Settled`
says that the next character that can follow a value completes it.
-/

set_option autoImplicit false

namespace JsonShape

namespace Json

mutual

/-- The tokens of a value. -/
def tokens : Json → List Token
  | null => [.null]
  | bool b => [.bool b]
  | number n => [.number n.reread?]
  | string s => [.string (some s)]
  | array [] => [.openArray, .closeArray]
  | array (v :: rest) => .openArray :: (tokens v ++ tokensOfItems rest)
  | object [] => [.openObject, .closeObject]
  | object ((k, v) :: rest) =>
    .openObject :: .string (some k) :: .colon :: (tokens v ++ tokensOfMembers rest)

/-- The tokens of the items after the first, and the end of the array. -/
def tokensOfItems : List Json → List Token
  | [] => [.closeArray]
  | v :: rest => .comma :: (tokens v ++ tokensOfItems rest)

/-- The tokens of the members after the first, and the end of the object. -/
def tokensOfMembers : List (String × Json) → List Token
  | [] => [.closeObject]
  | (k, v) :: rest =>
    .comma :: .string (some k) :: .colon :: (tokens v ++ tokensOfMembers rest)

end

end Json

namespace Token

namespace Scan

/-! ## Between tokens -/

theorem run_cons {s r : Scan} {c : Char} {cs : List Char} (h : s.step c = some r) :
    s.run (c :: cs) = r.run cs := by
  rw [run, h]

theorem run_append {s r : Scan} {cs ds : List Char} (h : s.run cs = some r) :
    s.run (cs ++ ds) = r.run ds := by
  induction cs generalizing s with
  | nil =>
    cases h
    rfl
  | cons c cs ih =>
    rw [run] at h
    rw [List.cons_append, run]
    cases hs : s.step c with
    | none => rw [hs] at h; cases h
    | some next =>
      rw [hs] at h
      exact ih h

/-- The tokens of a scan are known, and a character that can stand neither in a numeral nor in a word
comes after them. -/
structure Settled (s : Scan) (ts : List Token) : Prop where
  close : s.close = some ts
  step : ∀ c, inNumeral c = false → inWord c = false → s.step c = begin ts c

theorem settled_between (ts : List Token) : Settled ⟨ts, .between⟩ ts := ⟨rfl, fun _ _ _ => rfl⟩

theorem settled_numeral {ts : List Token} {read : List Char} {t : Token}
    (h : ofNumeral? read.reverse = some t) : Settled ⟨ts, .numeral read⟩ (t :: ts) := by
  have close : close ⟨ts, .numeral read⟩ = some (t :: ts) := by
    rw [Scan.close]
    simp only [h, Option.map_some]
  refine ⟨close, fun c hn _ => ?_⟩
  rw [step]
  simp only [hn, Bool.false_eq_true, if_false, close, Option.bind_some]

theorem settled_word {ts : List Token} {read : List Char} {t : Token}
    (h : ofWord? read.reverse = some t) : Settled ⟨ts, .word read⟩ (t :: ts) := by
  have close : close ⟨ts, .word read⟩ = some (t :: ts) := by
    rw [Scan.close]
    simp only [h, Option.map_some]
  refine ⟨close, fun c _ hw => ?_⟩
  rw [step]
  simp only [hw, Bool.false_eq_true, if_false, close, Option.bind_some]

variable {s : Scan} {ts : List Token}

theorem begin_space (ts : List Token) {c : Char} (h : Json.IsSpace c) :
    begin ts c = some ⟨ts, .between⟩ := if_pos h

theorem run_spaces (ts : List Token) {cs : List Char} (h : ∀ c ∈ cs, Json.IsSpace c)
    (rest : List Char) : run ⟨ts, .between⟩ (cs ++ rest) = run ⟨ts, .between⟩ rest := by
  induction cs with
  | nil => rfl
  | cons c cs ih =>
    rw [List.forall_mem_cons] at h
    have next : step ⟨ts, .between⟩ c = some ⟨ts, .between⟩ := begin_space ts h.1
    rw [List.cons_append, run_cons next, ih h.2]

/-- Blanks, or none, leave the tokens as they are. -/
theorem Settled.run_spaces (h : s.Settled ts) {cs : List Char} (blank : ∀ c ∈ cs, Json.IsSpace c)
    (rest : List Char) : ∃ r : Scan, s.run (cs ++ rest) = r.run rest ∧ r.Settled ts := by
  cases cs with
  | nil => exact ⟨s, rfl, h⟩
  | cons c cs =>
    rw [List.forall_mem_cons] at blank
    have apart : inNumeral c = false ∧ inWord c = false := by
      rcases blank.1 with rfl | rfl | rfl | rfl <;> decide
    have next : s.step c = some ⟨ts, .between⟩ :=
      (h.step c apart.1 apart.2).trans (begin_space ts blank.1)
    refine ⟨⟨ts, .between⟩, ?_, settled_between ts⟩
    rw [List.cons_append, run_cons next, Scan.run_spaces ts blank.2]

theorem Settled.run_comma (h : s.Settled ts) (cs : List Char) :
    s.run (',' :: cs) = run ⟨comma :: ts, .between⟩ cs :=
  run_cons (h.step ',' rfl rfl)

/-! ## Strings -/

/-- A string whose characters up to here have been read. -/
def reading (ts : List Token) (read : List Char) : Scan :=
  ⟨ts, .quoted ⟨read, true, none, .none⟩⟩

theorem hexDigit?_digitChar : ∀ n < 16, hexDigit? (Nat.digitChar n) = some n := by decide

theorem step_digit (ts : List Token) (read : List Char) (left value : Nat) {n : Nat} (hn : n < 16) :
    step ⟨ts, .quoted ⟨read, true, none, .digits left value⟩⟩ (Nat.digitChar n) =
      some (if left ≤ 1 then
        ⟨ts, .quoted (Quoted.pushUnit ⟨read, true, none, .digits left value⟩ (16 * value + n))⟩
      else ⟨ts, .quoted ⟨read, true, none, .digits (left - 1) (16 * value + n)⟩⟩) := by
  simp only [step, inString, hexDigit?_digitChar n hn, Option.map_some]

/-- The four digits of an escaped control character. -/
theorem run_unit (ts : List Token) (read : List Char) {c : Char} (h : c.toNat < 0x20)
    (cs : List Char) :
    run (reading ts read) (['\\', 'u', '0', '0', Nat.digitChar (c.toNat / 16),
      Nat.digitChar (c.toNat % 16)] ++ cs) = run (reading ts (c :: read)) cs := by
  have high := step_digit ts read 2 0 (n := c.toNat / 16) (by omega)
  have low := step_digit ts read 1 (c.toNat / 16) (n := c.toNat % 16) (by omega)
  have value : 16 * (c.toNat / 16) + c.toNat % 16 = c.toNat := by omega
  have push : Quoted.pushUnit ⟨read, true, none, .digits 1 (c.toNat / 16)⟩ c.toNat =
      ⟨c :: read, true, none, .none⟩ := by
    rw [Quoted.pushUnit, if_neg (by omega), if_neg (by omega), Quoted.push, Char.ofNat_toNat]
    rfl
  rw [if_neg (by omega), Nat.mul_zero, Nat.zero_add] at high
  rw [if_pos (Nat.le_refl 1), value, push] at low
  exact (run_cons high).trans (run_cons low)

theorem run_escapeChar (ts : List Token) (read : List Char) (c : Char) (cs : List Char) :
    run (reading ts read) (Json.escapeChar c ++ cs) = run (reading ts (c :: read)) cs := by
  by_cases h1 : c = '"'
  · rw [h1]; rfl
  by_cases h2 : c = '\\'
  · rw [h2]; rfl
  by_cases h3 : c = '\x08'
  · rw [h3]; rfl
  by_cases h4 : c = '\x0c'
  · rw [h4]; rfl
  by_cases h5 : c = '\n'
  · rw [h5]; rfl
  by_cases h6 : c = '\r'
  · rw [h6]; rfl
  by_cases h7 : c = '\t'
  · rw [h7]; rfl
  unfold Json.escapeChar
  rw [if_neg h1, if_neg h2, if_neg h3, if_neg h4, if_neg h5, if_neg h6, if_neg h7]
  -- other control characters as four digits, all else as it is
  by_cases h8 : c.toNat < 0x20
  · rw [if_pos h8]
    exact run_unit ts read h8 cs
  · rw [if_neg h8]
    refine run_cons ?_
    simp only [reading, step, inString, if_neg h1, if_neg h2, if_neg h8]
    rfl

theorem run_escaped (ts : List Token) (read cs ds : List Char) :
    run (reading ts read) (cs.flatMap Json.escapeChar ++ ds) =
      run (reading ts (cs.reverse ++ read)) ds := by
  induction cs generalizing read with
  | nil => rfl
  | cons c cs ih =>
    rw [List.flatMap_cons, List.append_assoc, run_escapeChar, ih, List.reverse_cons,
      List.append_assoc, List.singleton_append]

theorem run_quote (ts : List Token) (s : String) (cs : List Char) :
    run ⟨ts, .between⟩ (Json.quote s ++ cs) = run ⟨string (some s) :: ts, .between⟩ cs := by
  have opened : step ⟨ts, .between⟩ '"' = some (reading ts []) := rfl
  have closed : step (reading ts (s.toList.reverse ++ [])) '"' =
      some ⟨string (some s) :: ts, .between⟩ := by
    simp [reading, step, inString, Quoted.value?]
  rw [Json.quote, List.cons_append, List.cons_append, run_cons opened, List.append_assoc,
    run_escaped, List.singleton_append, run_cons closed]

/-- A key and the colon after it, with the blanks around. -/
theorem run_key (ts : List Token) (l : Json.Layout) (depth : Nat) (k : String) (cs : List Char) :
    run ⟨ts, .between⟩ (l.line depth ++ Json.quote k ++ ':' :: (l.gap ++ cs)) =
      run ⟨colon :: string (some k) :: ts, .between⟩ cs := by
  have entered : step ⟨string (some k) :: ts, .between⟩ ':' =
      some ⟨colon :: string (some k) :: ts, .between⟩ := rfl
  rw [List.append_assoc, run_spaces ts (l.line_blank depth), run_quote, run_cons entered,
    run_spaces _ l.gap_blank]

/-! ## Values -/

theorem run_numeral (ts : List Token) (read : List Char) {cs : List Char}
    (h : ∀ c ∈ cs, inNumeral c = true) :
    run ⟨ts, .numeral read⟩ cs = some ⟨ts, .numeral (cs.reverse ++ read)⟩ := by
  induction cs generalizing read with
  | nil => rfl
  | cons c cs ih =>
    rw [List.forall_mem_cons] at h
    have next : step ⟨ts, .numeral read⟩ c = some ⟨ts, .numeral (c :: read)⟩ := by
      simp only [step, h.1, if_true]
    rw [run_cons next, ih _ h.2, List.reverse_cons, List.append_assoc, List.singleton_append]

/-- No character that begins a numeral means anything else. -/
theorem begin_numeral (ts : List Token) {c : Char} (h : (isAsciiDigit c || c == '-') = true) :
    begin ts c = some ⟨ts, .numeral [c]⟩ := by
  -- the other tests come first in `begin`, so each has to fail
  have other : ∀ x : Char, (isAsciiDigit x || x == '-') = false → c ≠ x := by
    intro x hx he
    rw [he, hx] at h
    cases h
  simp only [begin, other ' ' rfl, other '\t' rfl, other '\n' rfl, other '\r' rfl, other '[' rfl,
    other ']' rfl, other '\x7b' rfl, other '\x7d' rfl, other ':' rfl, other ',' rfl, other '"' rfl,
    or_self, if_false, h, if_true]

theorem run_number (ts : List Token) (n : Number) :
    ∃ s, run ⟨ts, .between⟩ n.text = some s ∧ s.Settled (number n.reread? :: ts) := by
  obtain ⟨numeral, proper, chars, -⟩ := n.exists_numeral
  obtain ⟨c, rest, hc, first⟩ := Numeral.exists_chars_eq_cons proper
  have later : ∀ x ∈ rest, inNumeral x = true :=
    fun x hx => Numeral.inNumeral_of_mem_chars proper (by rw [hc]; exact List.mem_cons_of_mem c hx)
  refine ⟨⟨ts, .numeral (rest.reverse ++ [c])⟩, ?_, settled_numeral ?_⟩
  · rw [← chars, hc]
    have next : step ⟨ts, .between⟩ c = some ⟨ts, .numeral [c]⟩ := begin_numeral ts first
    rw [run_cons next, run_numeral ts [c] later]
  · rw [List.reverse_append, List.reverse_reverse, List.reverse_singleton, List.singleton_append,
      ← hc, ofNumeral?, Numeral.ofChars?_chars proper, Option.map_some,
      Number.reread?_of_chars proper chars]

mutual

/-- The text of a value is scanned to its tokens. -/
theorem run_layout (l : Json.Layout) (depth : Nat) (ts : List Token) : ∀ v : Json,
    ∃ s, run ⟨ts, .between⟩ (l.chars depth v) = some s ∧ s.Settled (v.tokens.reverse ++ ts)
  | .null => ⟨_, rfl, settled_word rfl⟩
  | .bool true => ⟨_, rfl, settled_word rfl⟩
  | .bool false => ⟨_, rfl, settled_word rfl⟩
  | .number n => run_number ts n
  | .string s => by
    refine ⟨_, ?_, settled_between _⟩
    have := run_quote ts s []
    rwa [List.append_nil] at this
  | .array [] => ⟨_, rfl, settled_between _⟩
  | .array (v :: rest) => by
    refine ⟨_, ?_, settled_between _⟩
    obtain ⟨s, hs, settled⟩ := run_layout l (depth + 1) (openArray :: ts) v
    have opened : step ⟨ts, .between⟩ '[' = some ⟨openArray :: ts, .between⟩ := rfl
    rw [Json.Layout.chars, run_cons opened, List.append_assoc, run_spaces _ (l.line_blank _),
      run_append hs, run_layoutItems l depth rest settled, Json.tokens]
    simp
  | .object [] => ⟨_, rfl, settled_between _⟩
  | .object ((k, v) :: rest) => by
    refine ⟨_, ?_, settled_between _⟩
    obtain ⟨s, hs, settled⟩ :=
      run_layout l (depth + 1) (colon :: string (some k) :: openObject :: ts) v
    have opened : step ⟨ts, .between⟩ '\x7b' = some ⟨openObject :: ts, .between⟩ := rfl
    rw [Json.Layout.chars, run_cons opened, run_key, run_append hs,
      run_layoutMembers l depth rest settled, Json.tokens]
    simp

theorem run_layoutItems (l : Json.Layout) (depth : Nat) : ∀ (rest : List Json) {s : Scan}
    {ts : List Token}, s.Settled ts →
      s.run (l.charsOfItems depth rest) =
        some ⟨(Json.tokensOfItems rest).reverse ++ ts, .between⟩
  | [], s, ts, h => by
    obtain ⟨r, hr, settled⟩ := h.run_spaces (l.line_blank depth) [']']
    have closed : r.step ']' = some ⟨closeArray :: ts, .between⟩ := settled.step ']' rfl rfl
    rw [Json.Layout.charsOfItems, hr, run_cons closed]
    rfl
  | v :: rest, s, ts, h => by
    obtain ⟨r, hr, settled⟩ := run_layout l (depth + 1) (comma :: ts) v
    rw [Json.Layout.charsOfItems, h.run_comma, List.append_assoc, run_spaces _ (l.line_blank _),
      run_append hr, run_layoutItems l depth rest settled, Json.tokensOfItems]
    simp

theorem run_layoutMembers (l : Json.Layout) (depth : Nat) : ∀ (rest : List (String × Json))
    {s : Scan} {ts : List Token}, s.Settled ts →
      s.run (l.charsOfMembers depth rest) =
        some ⟨(Json.tokensOfMembers rest).reverse ++ ts, .between⟩
  | [], s, ts, h => by
    obtain ⟨r, hr, settled⟩ := h.run_spaces (l.line_blank depth) ['\x7d']
    have closed : r.step '\x7d' = some ⟨closeObject :: ts, .between⟩ := settled.step '\x7d' rfl rfl
    rw [Json.Layout.charsOfMembers, hr, run_cons closed]
    rfl
  | (k, v) :: rest, s, ts, h => by
    obtain ⟨r, hr, settled⟩ :=
      run_layout l (depth + 1) (colon :: string (some k) :: comma :: ts) v
    rw [Json.Layout.charsOfMembers, h.run_comma, run_key, run_append hr,
      run_layoutMembers l depth rest settled, Json.tokensOfMembers]
    simp

end

end Scan

/-- A value that is laid out in any way is scanned to its tokens. -/
theorem scan_layout (l : Json.Layout) (depth : Nat) (v : Json) :
    scan (l.chars depth v) = some v.tokens := by
  obtain ⟨s, hs, settled⟩ := Scan.run_layout l depth [] v
  rw [scan, hs, Option.bind_some, settled.close, Option.map_some, List.append_nil,
    List.reverse_reverse]

theorem scan_prettyChars (v : Json) (depth : Nat) : scan (v.prettyChars depth) = some v.tokens := by
  rw [← Json.Layout.chars_indented]
  exact scan_layout .indented depth v

theorem scan_compactChars (v : Json) : scan v.compactChars = some v.tokens := by
  rw [← Json.Layout.chars_dense 0]
  exact scan_layout .dense 0 v

end Token

end JsonShape
