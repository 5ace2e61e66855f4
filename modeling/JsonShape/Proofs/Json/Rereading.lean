import JsonShape.Proofs.Double.Scaled
import JsonShape.Proofs.Json.Canonical
import JsonShape.Proofs.Json.Numerals

/-!
# Numbers read back

The text of a double spells a number to which the double is the nearest one, but it is read by scaling its
digits, which may come to a neighbour. `Number.reread?` is what the text of a number is read as, and the
number is `Faithful` if that is the number itself. Integers are (`Number.faithful_integer`), and so are
doubles of few digits (`Number.faithful_of_few_digits`).

`Json.reread?` is a value with every number as it is read back: the value itself exactly if all its numbers
are faithful (`Json.reread?_eq_self_iff`).
-/

set_option autoImplicit false

namespace JsonShape

/-! ## Numerals of few digits -/

namespace Numeral

theorem le_foldl_digits (ds : List Char) (n : Nat) :
    n ≤ ds.foldl (fun n c => 10 * n + digitValue c) n := by
  induction ds generalizing n with
  | nil => exact Nat.le_refl n
  | cons c ds ih => exact Nat.le_trans (by omega) (ih (10 * n + digitValue c))

/-- All digits are taken if 64 bits hold their value. -/
theorem accumulate_eq {ds : List Char} {n : Nat}
    (fits : ds.foldl (fun n c => 10 * n + digitValue c) n < 0x10000000000000000) :
    accumulate n ds = (ds.foldl (fun n c => 10 * n + digitValue c) n, []) := by
  induction ds generalizing n with
  | nil => rfl
  | cons c ds ih =>
    rw [List.foldl_cons] at fits ⊢
    have next := Nat.lt_of_le_of_lt (le_foldl_digits ds (10 * n + digitValue c)) fits
    simp only [accumulate, if_pos next, ih fits]

theorem significand_eq {n : Numeral}
    (fits : digitsValue (n.whole ++ n.fraction.getD []) < 0x10000000000000000) :
    n.significand = (digitsValue (n.whole ++ n.fraction.getD []),
      n.exponent.getD 0 - (n.fraction.getD []).length) := by
  simp only [digitsValue, List.foldl_append] at fits ⊢
  have whole := accumulate_eq (Nat.lt_of_le_of_lt (le_foldl_digits (n.fraction.getD []) _) fits)
  simp only [significand, whole, accumulate_eq fits, List.length_nil]
  congr 1
  omega

/-- A numeral of few digits and a small exponent is read as the nearest double. -/
theorem toDouble_eq_nearest {n : Numeral} (few : digitsValue (n.whole ++ n.fraction.getD []) ≤ 2 ^ 53)
    (least : -22 ≤ n.exponent.getD 0 - (n.fraction.getD []).length)
    (most : n.exponent.getD 0 - (n.fraction.getD []).length ≤ 22) : n.toDouble = n.nearest := by
  rw [toDouble, significand_eq (Nat.lt_of_le_of_lt few (by decide))]
  simp only [Double.scaled_eq_ofDecimal few least most, Double.withSign_ofDecimal]
  rfl

end Numeral

/-! ## Numbers -/

namespace Number

/-- The number that the text of a number is read as. -/
def reread? (n : Number) : Option Number := (Numeral.ofChars? n.text).bind Numeral.number?

/-- A number whose text is read as the number. -/
def Faithful (n : Number) : Prop := n.reread? = some n

instance : DecidablePred Faithful := fun n => inferInstanceAs (Decidable (n.reread? = some n))

theorem reread?_of_chars {n : Number} {numeral : Numeral} (proper : numeral.Proper)
    (chars : numeral.chars = n.text) : n.reread? = numeral.number? := by
  rw [reread?, ← chars, Numeral.ofChars?_chars proper, Option.bind_some]

/-- Integers come back as they are. -/
theorem faithful_integer {value : Int}
    (fits : -0x8000000000000000 ≤ value ∧ value < 0x10000000000000000) :
    (integer value fits).Faithful := by
  have spelled : (Numeral.ofInt value).chars = (integer value fits).text := Numeral.chars_ofInt value
  rw [Faithful, reread?_of_chars (Numeral.proper_ofInt value) spelled]
  exact Numeral.numberBy?_ofInt Numeral.toDouble fits

/-- A number of few digits and a small exponent comes back as it is. -/
theorem faithful_of_few_digits {n : Number} {numeral : Numeral}
    (spelled : Numeral.ofChars? n.text = some numeral)
    (few : digitsValue (numeral.whole ++ numeral.fraction.getD []) ≤ 2 ^ 53)
    (least : -22 ≤ numeral.exponent.getD 0 - (numeral.fraction.getD []).length)
    (most : numeral.exponent.getD 0 - (numeral.fraction.getD []).length ≤ 22) : n.Faithful := by
  obtain ⟨other, proper, chars, nearest⟩ := n.exists_numeral
  have same : other = numeral := by
    rw [← chars, Numeral.ofChars?_chars proper] at spelled
    exact Option.some.inj spelled
  subst same
  rw [Faithful, reread?_of_chars proper chars, ← nearest]
  simp only [Numeral.number?, Numeral.nearestNumber?, Numeral.numberBy?,
    Numeral.toDouble_eq_nearest few least most]

/-- A double comes back as a double, if it comes back as a number. -/
theorem exists_of_reread?_double {value : Double} {finite : value.isFinite = true} {n : Number}
    (h : (double value finite).reread? = some n) : ∃ value' finite', n = double value' finite' := by
  cases value with
  | finite negative units fits =>
    obtain ⟨numeral, proper, chars, isDouble, -⟩ := Numeral.exists_text negative units fits
    rw [reread?_of_chars (n := double _ finite) proper chars, Numeral.number?, Numeral.numberBy?,
      isDouble] at h
    simp only [Option.bind_none, ofDouble?, Option.dite_none_right_eq_some, Option.some.injEq] at h
    obtain ⟨finite', rfl⟩ := h
    exact ⟨_, finite', rfl⟩
  | infinite negative => cases finite
  | nan => cases finite

end Number

/-! ## Values -/

namespace Json

mutual

/-- A value with every number as its text is read; none if one is read as no number. -/
def reread? : Json → Option Json
  | number n => n.reread?.map number
  | array items => (rereadItems? items).map array
  | object members => (rereadMembers? members).map object
  | v => some v

/-- `reread?`, for each item. -/
def rereadItems? : List Json → Option (List Json)
  | [] => some []
  | v :: rest => do
    let v ← reread? v
    let vs ← rereadItems? rest
    some (v :: vs)

/-- `reread?`, for the value of each member. -/
def rereadMembers? : List (String × Json) → Option (List (String × Json))
  | [] => some []
  | (k, v) :: rest => do
    let v ← reread? v
    let vs ← rereadMembers? rest
    some ((k, v) :: vs)

end

mutual

/-- The numbers in a value. -/
def numbers : Json → List Number
  | number n => [n]
  | array items => numbersOfItems items
  | object members => numbersOfMembers members
  | _ => []

/-- `numbers`, of all items. -/
def numbersOfItems : List Json → List Number
  | [] => []
  | v :: rest => numbers v ++ numbersOfItems rest

/-- `numbers`, of the values of all members. -/
def numbersOfMembers : List (String × Json) → List Number
  | [] => []
  | (_, v) :: rest => numbers v ++ numbersOfMembers rest

end

/-- Every number in the value is read back. -/
def Faithful (v : Json) : Prop := ∀ n ∈ v.numbers, n.Faithful

instance : DecidablePred Faithful :=
  fun v => inferInstanceAs (Decidable (∀ n ∈ v.numbers, n.Faithful))

theorem faithful_number_iff {n : Number} : (number n).Faithful ↔ n.Faithful :=
  List.forall_mem_singleton

theorem faithful_array_iff {items : List Json} :
    (array items).Faithful ↔ ∀ v ∈ items, v.Faithful := by
  rw [Faithful, numbers]
  induction items with
  | nil => simp [numbersOfItems]
  | cons v items ih =>
    rw [numbersOfItems, List.forall_mem_append, ih, List.forall_mem_cons]
    rfl

theorem faithful_object_iff {members : List (String × Json)} :
    (object members).Faithful ↔ ∀ m ∈ members, m.2.Faithful := by
  rw [Faithful, numbers]
  induction members with
  | nil => simp [numbersOfMembers]
  | cons m members ih =>
    rw [numbersOfMembers, List.forall_mem_append, ih, List.forall_mem_cons]
    rfl

theorem rereadItems?_eq_self_iff {items : List Json} :
    rereadItems? items = some items ↔ ∀ v ∈ items, v.reread? = some v := by
  induction items with
  | nil => simp [rereadItems?]
  | cons v items ih =>
    rw [List.forall_mem_cons, ← ih]
    simp [rereadItems?, Option.bind_eq_some_iff]

theorem rereadMembers?_eq_self_iff {members : List (String × Json)} :
    rereadMembers? members = some members ↔ ∀ m ∈ members, m.2.reread? = some m.2 := by
  induction members with
  | nil => simp [rereadMembers?]
  | cons m members ih =>
    obtain ⟨k, v⟩ := m
    rw [List.forall_mem_cons, ← ih]
    simp [rereadMembers?, Option.bind_eq_some_iff]

/-- A value is the same with its numbers read back exactly if each of them is. -/
theorem reread?_eq_self_iff {v : Json} : v.reread? = some v ↔ v.Faithful := by
  induction v using Json.induct with
  | null | bool _ | string _ => simp [reread?, Faithful, numbers]
  | number n =>
    rw [reread?, faithful_number_iff, Number.Faithful]
    simp
  | array items ih =>
    rw [reread?, faithful_array_iff, ← forall₂_congr ih, ← rereadItems?_eq_self_iff]
    simp
  | object members ih =>
    rw [reread?, faithful_object_iff, ← forall₂_congr ih, ← rereadMembers?_eq_self_iff]
    simp

end Json

end JsonShape
