import JsonShape.Json.Printer
import JsonShape.Json.Token
import JsonShape.Proofs.Double.Decimal
import JsonShape.Proofs.Text.Digits

/-!
# Numerals of numbers

`Numeral.chars` spells a numeral that is `Proper`, and `Numeral.ofChars?` reads it back
(`ofChars?_chars`). The text of every number is the spelling of a proper numeral that denotes that
number (`Number.exists_numeral`): an integer digit by digit, a double by the layout of its shortest
decimal.
-/

set_option autoImplicit false

namespace JsonShape

namespace Numeral

/-! ## Spelling -/

/-- The characters of a sign. -/
def signChars (negative : Bool) : List Char := if negative then ['-'] else []

/-- The characters of a fraction. -/
def fractionChars : Option (List Char) → List Char
  | none => []
  | some ds => '.' :: ds

/-- The characters of an exponent, always with a sign. -/
def exponentChars : Option Int → List Char
  | none => []
  | some e => 'e' :: (if e < 0 then '-' else '+') :: Nat.toDigits 10 e.natAbs

/-- The characters of a numeral. -/
def chars (n : Numeral) : List Char :=
  signChars n.negative ++ (n.whole ++ (fractionChars n.fraction ++ exponentChars n.exponent))

/-- Whole part and fraction are digits, and the whole part has no needless zero. -/
structure Proper (n : Numeral) : Prop where
  nonempty : n.whole ≠ []
  digits : ∀ c ∈ n.whole, isAsciiDigit c = true
  lean : n.whole.head? = some '0' → n.whole.length = 1
  fraction : ∀ f ∈ n.fraction, f ≠ [] ∧ ∀ c ∈ f, isAsciiDigit c = true

theorem digits?_append {ds rest : List Char} (ne : ds ≠ [])
    (h : ∀ c ∈ ds, isAsciiDigit c = true) (stop : ∀ c ∈ rest.head?, isAsciiDigit c = false) :
    digits? (ds ++ rest) = some (ds, rest) := by
  rw [digits?, span_append h stop]
  cases ds with
  | nil => exact absurd rfl ne
  | cons c ds => rfl

theorem digits?_toDigits (n : Nat) : digits? (Nat.toDigits 10 n) = some (Nat.toDigits 10 n, []) := by
  have read : digits? (Nat.toDigits 10 n ++ []) = some (Nat.toDigits 10 n, []) :=
    digits?_append Nat.toDigits_ne_nil (fun c hc => isAsciiDigit_of_mem_toDigits hc) (by simp)
  rwa [List.append_nil] at read

theorem scale?_exponentChars (negative : Bool) (whole : List Char) (fraction : Option (List Char))
    (exponent : Option Int) :
    scale? negative whole fraction (exponentChars exponent) =
      some ⟨negative, whole, fraction, exponent⟩ := by
  cases exponent with
  | none => rfl
  | some e =>
    have read : exponent? ((if e < 0 then '-' else '+') :: Nat.toDigits 10 e.natAbs) = some e := by
      split
      · rw [exponent?, digits?_toDigits]
        simp only [digitsValue_toDigits, Option.some.injEq]
        omega
      · rw [exponent?, digits?_toDigits]
        simp only [digitsValue_toDigits, Option.some.injEq]
        omega
    simp only [exponentChars, scale?, true_or, if_true, read, Option.map_some]

theorem exponentChars_stop (exponent : Option Int) :
    ∀ c ∈ (exponentChars exponent).head?, isAsciiDigit c = false := by
  cases exponent with
  | none => simp [exponentChars]
  | some e =>
    intro c hc
    cases hc
    rfl

theorem unsigned?_chars {n : Numeral} (h : n.Proper) :
    unsigned? n.negative (n.whole ++ (fractionChars n.fraction ++ exponentChars n.exponent)) =
      some n := by
  obtain ⟨negative, whole, fraction, exponent⟩ := n
  have stop : ∀ c ∈ (fractionChars fraction ++ exponentChars exponent).head?,
      isAsciiDigit c = false := by
    cases fraction with
    | none => exact exponentChars_stop exponent
    | some f =>
      intro c hc
      cases hc
      rfl
  have lean : ¬(whole.head? = some '0' ∧ whole.length ≠ 1) := fun hw => hw.2 (h.lean hw.1)
  simp only [unsigned?, digits?_append h.nonempty h.digits stop, bind, Option.bind, if_neg lean]
  cases fraction with
  | none =>
    simp only [fractionChars, List.nil_append]
    split
    · next rest he => cases exponent <;> cases he
    · exact scale?_exponentChars negative whole none exponent
  | some f =>
    obtain ⟨ne, digits⟩ := h.fraction f rfl
    simp only [fractionChars, List.cons_append,
      digits?_append ne digits (exponentChars_stop exponent)]
    exact scale?_exponentChars negative whole (some f) exponent

/-- A proper numeral is read back from its characters. -/
theorem ofChars?_chars {n : Numeral} (h : n.Proper) : ofChars? n.chars = some n := by
  have read := unsigned?_chars h
  obtain ⟨negative, whole, fraction, exponent⟩ := n
  cases negative with
  | true => exact read
  | false =>
    rw [chars, signChars, if_neg (by simp), List.nil_append]
    cases whole with
    | nil => exact absurd rfl h.nonempty
    | cons c whole =>
      have digit := h.digits c List.mem_cons_self
      rw [List.cons_append] at read ⊢
      unfold ofChars?
      split
      · next rest he =>
        cases he
        cases digit
      · exact read

/-! ## Where a numeral stands in a text -/

theorem inNumeral_of_isAsciiDigit {c : Char} (h : isAsciiDigit c = true) :
    Token.inNumeral c = true := by
  simp [Token.inNumeral, h]

theorem inNumeral_of_mem_exponentChars {exponent : Option Int} {c : Char}
    (h : c ∈ exponentChars exponent) : Token.inNumeral c = true := by
  cases exponent with
  | none => cases h
  | some e =>
    rw [exponentChars, List.mem_cons, List.mem_cons] at h
    rcases h with rfl | he | hd
    · rfl
    · split at he
      · rw [he]; rfl
      · rw [he]; rfl
    · exact inNumeral_of_isAsciiDigit (isAsciiDigit_of_mem_toDigits hd)

/-- Every character of a proper numeral can stand in one. -/
theorem inNumeral_of_mem_chars {n : Numeral} (h : n.Proper) {c : Char} (hc : c ∈ n.chars) :
    Token.inNumeral c = true := by
  obtain ⟨negative, whole, fraction, exponent⟩ := n
  simp only [chars, List.mem_append] at hc
  rcases hc with hs | hw | hf | he
  · cases negative with
    | true => rw [List.mem_singleton.1 hs]; rfl
    | false => cases hs
  · exact inNumeral_of_isAsciiDigit (h.digits c hw)
  · cases fraction with
    | none => cases hf
    | some f =>
      rcases List.mem_cons.1 hf with he | hd
      · rw [he]; rfl
      · exact inNumeral_of_isAsciiDigit ((h.fraction f rfl).2 c hd)
  · exact inNumeral_of_mem_exponentChars he

/-- A numeral begins with a digit or a minus sign. -/
theorem exists_chars_eq_cons {n : Numeral} (h : n.Proper) :
    ∃ c rest, n.chars = c :: rest ∧ (isAsciiDigit c || c == '-') = true := by
  obtain ⟨negative, whole, fraction, exponent⟩ := n
  cases negative with
  | true => exact ⟨'-', _, rfl, rfl⟩
  | false =>
    cases whole with
    | nil => exact absurd rfl h.nonempty
    | cons c whole => exact ⟨c, _, rfl, by rw [h.digits c List.mem_cons_self, Bool.true_or]⟩

/-! ## Numerals of numbers -/

/-- Digits with a whole part that is one of them, or that does not begin with zero. -/
theorem proper_of_ne_zero {negative : Bool} {whole : List Char} {fraction : Option (List Char)}
    {exponent : Option Int} (ne : whole ≠ []) (digits : ∀ c ∈ whole, isAsciiDigit c = true)
    (first : whole.head? ≠ some '0') (hf : ∀ f ∈ fraction, f ≠ [] ∧ ∀ c ∈ f, isAsciiDigit c = true) :
    Proper ⟨negative, whole, fraction, exponent⟩ :=
  ⟨ne, digits, fun h => absurd h first, hf⟩

/-- The numeral of an integer. -/
def ofInt (n : Int) : Numeral := ⟨decide (n < 0), Nat.toDigits 10 n.natAbs, none, none⟩

theorem chars_ofInt (n : Int) : (ofInt n).chars = integerText n := by
  simp only [ofInt, chars, fractionChars, exponentChars, List.append_nil, integerText, signChars,
    decide_eq_true_eq]

theorem proper_ofInt (n : Int) : (ofInt n).Proper := by
  refine ⟨Nat.toDigits_ne_nil, fun c hc => isAsciiDigit_of_mem_toDigits hc, fun h => ?_,
    by simp [ofInt]⟩
  by_cases zero : n.natAbs = 0
  · simp [ofInt, zero]
  · exact absurd h (head?_toDigits (by omega))

/-- An integer is read as it is, however doubles are. -/
theorem numberBy?_ofInt (double : Numeral → Double) {n : Int}
    (fits : -0x8000000000000000 ≤ n ∧ n < 0x10000000000000000) :
    (ofInt n).numberBy? double = some (.integer n fits) := by
  have whole : (ofInt n).toInt? = some n := by
    simp only [ofInt, toInt?, digitsValue_toDigits, decide_eq_true_eq]
    split
    · rw [if_neg (by omega), Option.some.injEq]
      omega
    · rw [Option.some.injEq]
      omega
  simp only [numberBy?, whole, Option.bind_some, Number.ofInt?, dif_pos fits]

/-! ## Numerals of doubles -/

open Double

/-- A numeral that spells characters after a sign and is read as a decimal. -/
structure Spells (negative : Bool) (d : Decimal) (cs : List Char) (n : Numeral) : Prop where
  proper : n.Proper
  chars : n.chars = signChars negative ++ cs
  /-- A fraction or an exponent shows that it is a double. -/
  isDouble : n.toInt? = none
  value : n.nearest = ofDecimal negative d.digits d.exponent

theorem Spells.nearestNumber? {negative : Bool} {d : Decimal} {cs : List Char} {n : Numeral}
    (h : Spells negative d cs n) {x : Double} (finite : x.isFinite = true)
    (hx : ofDecimal negative d.digits d.exponent = x) :
    n.nearestNumber? = some (.double x finite) := by
  simp only [Numeral.nearestNumber?, numberBy?, h.isDouble, Option.bind_none, h.value, hx,
    Number.ofDouble?, dif_pos finite]

section

variable {negative : Bool} {digits : Nat} {exponent : Int} {ds : List Char} (ne : ds ≠ [])
  (all : ∀ c ∈ ds, isAsciiDigit c = true) (first : ds.head? ≠ some '0')
  (value : digitsValue ds = digits)

include ne all first value

/-- A whole number: zeros for the exponent, and a fraction of one zero. -/
theorem spells_whole (h : 0 ≤ exponent) :
    Spells negative ⟨digits, exponent⟩
      (ds ++ List.replicate exponent.toNat '0' ++ ['.', '0'])
      ⟨negative, ds ++ List.replicate exponent.toNat '0', some ['0'], none⟩ where
  proper := by
    refine proper_of_ne_zero (by simp [ne]) ?_ ?_ ?_
    · intro c hc
      rcases List.mem_append.1 hc with hc | hc
      · exact all c hc
      · rw [List.eq_of_mem_replicate hc]; rfl
    · rwa [List.head?_append, Option.or_of_isSome (List.isSome_head?.2 ne)]
    · intro f hf
      cases hf
      exact ⟨by simp, by simp [isAsciiDigit]⟩
  chars := by simp [Numeral.chars, fractionChars, exponentChars]
  isDouble := rfl
  value := by
    have zeros : ds ++ List.replicate exponent.toNat '0' ++ ['0'] =
        ds ++ List.replicate (exponent.toNat + 1) '0' := by
      rw [List.append_assoc, List.replicate_succ']
    simp only [nearest, Option.getD_some, Option.getD_none, zeros, digitsValue_append_zeros,
      value, ofDecimal_mul_pow]
    congr 1
    simp only [List.length_singleton]
    omega

/-- A point among the digits. -/
theorem spells_point (h : exponent < 0) (inside : (-exponent).toNat < ds.length) :
    Spells negative ⟨digits, exponent⟩
      (ds.take (ds.length - (-exponent).toNat) ++ '.' :: ds.drop (ds.length - (-exponent).toNat))
      ⟨negative, ds.take (ds.length - (-exponent).toNat),
        some (ds.drop (ds.length - (-exponent).toNat)), none⟩ where
  proper := by
    have cut : ds.length - (-exponent).toNat ≠ 0 := by omega
    refine proper_of_ne_zero (by simp [ne, cut]) (fun c hc => all c (List.mem_of_mem_take hc)) ?_ ?_
    · rwa [List.head?_take, if_neg cut]
    · intro f hf
      cases hf
      refine ⟨?_, fun c hc => all c (List.mem_of_mem_drop hc)⟩
      rw [ne_eq, List.drop_eq_nil_iff]
      omega
  chars := by simp [Numeral.chars, fractionChars, exponentChars]
  isDouble := rfl
  value := by
    simp only [nearest, Option.getD_some, Option.getD_none, List.take_append_drop, value,
      List.length_drop]
    congr 1
    omega

omit first in
/-- A point and zeros before the digits. -/
theorem spells_small (h : exponent < 0) (outside : ds.length ≤ (-exponent).toNat) :
    Spells negative ⟨digits, exponent⟩
      ('0' :: '.' :: List.replicate ((-exponent).toNat - ds.length) '0' ++ ds)
      ⟨negative, ['0'], some (List.replicate ((-exponent).toNat - ds.length) '0' ++ ds), none⟩ where
  proper := by
    refine ⟨by simp, by simp [isAsciiDigit], fun _ => rfl, ?_⟩
    intro f hf
    cases hf
    refine ⟨by simp [ne], fun c hc => ?_⟩
    rcases List.mem_append.1 hc with hc | hc
    · rw [List.eq_of_mem_replicate hc]; rfl
    · exact all c hc
  chars := by simp [Numeral.chars, fractionChars, exponentChars]
  isDouble := rfl
  value := by
    have zeros : ['0'] ++ (List.replicate ((-exponent).toNat - ds.length) '0' ++ ds) =
        List.replicate ((-exponent).toNat - ds.length + 1) '0' ++ ds := rfl
    simp only [nearest, Option.getD_some, Option.getD_none, zeros, digitsValue_zeros_append,
      value, List.length_append, List.length_replicate]
    congr 1
    omega

/-- One digit before the point, and an exponent. -/
theorem exists_spells_exponential :
    ∃ n, Spells negative ⟨digits, exponent⟩ (writeExponential ds (exponent + ds.length - 1)) n := by
  match ds, ne with
  | [c], _ =>
    refine ⟨⟨negative, [c], none, some exponent⟩,
      proper_of_ne_zero (by simp) all first (by simp), ?_, rfl, ?_⟩
    · simp [Numeral.chars, fractionChars, exponentChars, writeExponential]
    · simp only [nearest, Option.getD_some, Option.getD_none, List.append_nil, value,
        List.length_nil]
      congr 1
      omega
  | c :: c' :: more, _ =>
    rw [List.forall_mem_cons] at all
    refine ⟨⟨negative, [c], some (c' :: more), some (exponent + (c :: c' :: more).length - 1)⟩,
      proper_of_ne_zero (by simp) (by simpa using all.1) first ?_, ?_, rfl, ?_⟩
    · intro f hf
      cases hf
      exact ⟨by simp, all.2⟩
    · simp [Numeral.chars, fractionChars, exponentChars, writeExponential]
    · simp only [nearest, Option.getD_some, List.cons_append, List.nil_append, value,
        List.length_cons]
      congr 1
      omega

/-- Positional notation. -/
theorem exists_spells_positional :
    ∃ n, Spells negative ⟨digits, exponent⟩ (writePositional json ds exponent) n := by
  unfold writePositional
  split
  · next h => exact ⟨_, spells_whole ne all first value h⟩
  · next h =>
    simp only
    split
    · next inside => exact ⟨_, spells_point ne all first value (by omega) inside⟩
    · next outside => exact ⟨_, spells_small ne all value (by omega) (by omega)⟩

end

/-- A decimal other than zero is laid out as a numeral that is read as it. -/
theorem exists_spells_decimal {d : Decimal} (hd : d.digits ≠ 0) (negative : Bool) :
    ∃ n, Spells negative d (json.decimal d) n := by
  have ne : Nat.toDigits 10 d.digits ≠ [] := Nat.toDigits_ne_nil
  have all : ∀ c ∈ Nat.toDigits 10 d.digits, isAsciiDigit c = true :=
    fun c hc => isAsciiDigit_of_mem_toDigits hc
  have first : (Nat.toDigits 10 d.digits).head? ≠ some '0' := head?_toDigits (by omega)
  have value := digitsValue_toDigits d.digits
  rw [Layout.decimal]
  simp only [json]
  split
  · exact exists_spells_positional ne all first value
  · exact exists_spells_exponential ne all first value

/-- A finite double is written as a numeral of a double to which it is the nearest one. -/
theorem exists_text (negative : Bool) (units : Nat) (fits : Fits units) :
    ∃ n : Numeral, n.Proper ∧ n.chars = (finite negative units fits).text json ∧
      n.toInt? = none ∧ n.nearestNumber? = some (.double (finite negative units fits) rfl) := by
  rw [text]
  by_cases zero : units = 0
  · subst zero
    have spells : Spells negative ⟨0, 0⟩ ['0', '.', '0'] ⟨negative, ['0'], some ['0'], none⟩ := by
      refine ⟨⟨by simp, by simp [isAsciiDigit], fun _ => rfl, ?_⟩, rfl, rfl, ?_⟩
      · intro f hf
        cases hf
        exact ⟨by simp, by simp [isAsciiDigit]⟩
      · simp only [nearest, ofDecimal]
        rfl
    refine ⟨_, spells.proper, spells.chars, spells.isDouble, spells.nearestNumber? rfl ?_⟩
    rw [ofDecimal, if_pos rfl, ofUnits]
    simp only [nearestUnits_zero, dif_pos overflow_pos]
  · obtain ⟨hd, read⟩ := ofDecimal_shortest zero negative fits
    obtain ⟨n, spells⟩ := exists_spells_decimal hd negative
    refine ⟨n, spells.proper, ?_, spells.isDouble, spells.nearestNumber? rfl read⟩
    rw [spells.chars, if_neg zero, signChars]

end Numeral

namespace Number

/-- The text of a number is the spelling of a numeral that denotes the number, where doubles are rounded
once only. -/
theorem exists_numeral (n : Number) :
    ∃ numeral : Numeral, numeral.Proper ∧ numeral.chars = n.text ∧
      numeral.nearestNumber? = some n := by
  cases n with
  | integer value fits =>
    exact ⟨.ofInt value, Numeral.proper_ofInt value, Numeral.chars_ofInt value,
      Numeral.numberBy?_ofInt Numeral.nearest fits⟩
  | double value finite =>
    cases value with
    | finite negative units fits =>
      obtain ⟨numeral, proper, chars, -, nearest⟩ := Numeral.exists_text negative units fits
      exact ⟨numeral, proper, chars, nearest⟩
    | infinite negative => cases finite
    | nan => cases finite

end Number

end JsonShape
