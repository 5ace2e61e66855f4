import Mathlib.Algebra.Ring.Nat
import Mathlib.Data.List.TakeDrop
import Mathlib.Data.String.Basic
import JsonShape.Proofs.Text.Fields
import JsonShape.Proofs.TextFormat.Labels
import JsonShape.Proofs.TextFormat.Tail
import JsonShape.TextFormat.Address
import JsonShape.TextFormat.Calendar
import JsonShape.TextFormat.Code
import JsonShape.TextFormat.Identifier
import JsonShape.TextFormat.Label

/-!
# Characters of texts with a format

What the characters of a text can be if it has one of the formats that are made of digits, letters and
a few separators, and how many of them there are. A text of characters of one class lacks every
character that the class does not have (`not_mem_of_all`), so this tells most formats apart.
-/

set_option autoImplicit false

namespace JsonShape

theorem not_mem_of_all {p : Char → Bool} {cs : List Char} (h : ∀ c ∈ cs, p c = true) {x : Char}
    (hx : p x = false) : x ∉ cs := fun hm => by
  rw [h x hm] at hx
  cases hx

namespace TextFormat

/-! ## Identifiers -/

/-- Whether a character is a hexadecimal digit or a hyphen. -/
def inUuid (c : Char) : Bool := (hexDigit? c).isSome || c == '-'

theorem inUuid_of_isHexGroups {sizes : List Nat} {cs : List Char}
    (h : isHexGroups sizes cs = true) : ∀ c ∈ cs, inUuid c = true := by
  fun_induction isHexGroups sizes cs with
  | case1 => cases h
  | case2 cs size =>
    rw [Bool.and_eq_true, List.all_eq_true] at h
    intro c hc
    rw [inUuid, h.2 c hc, Bool.true_or]
  | case3 size sizes cs _ ih =>
    simp only [Bool.and_eq_true, List.all_eq_true] at h
    obtain ⟨⟨-, group⟩, more⟩ := h
    split at more
    · next rest cut =>
      intro c hc
      rw [← List.take_append_drop size cs, cut, List.mem_append, List.mem_cons] at hc
      rcases hc with hc | rfl | hc
      · rw [inUuid, group c hc, Bool.true_or]
      · rfl
      · exact ih rest more c hc
    · cases more

theorem length_of_isHexGroups {sizes : List Nat} {cs : List Char}
    (h : isHexGroups sizes cs = true) : cs.length + 1 = sizes.sum + sizes.length := by
  fun_induction isHexGroups sizes cs with
  | case1 => cases h
  | case2 cs size =>
    rw [Bool.and_eq_true, beq_iff_eq] at h
    simp [h.1]
  | case3 size sizes cs _ ih =>
    simp only [Bool.and_eq_true, beq_iff_eq] at h
    obtain ⟨⟨taken, -⟩, more⟩ := h
    split at more
    · next rest cut =>
      have whole : cs.length = size + (rest.length + 1) := by
        rw [← List.take_append_drop size cs, List.length_append, taken, cut, List.length_cons]
      have := ih rest more
      rw [List.sum_cons, List.length_cons]
      omega
    · cases more

/-- Whether a character is a plus or a digit. -/
def inPhone (c : Char) : Bool := c == '+' || ('1' ≤ c && c ≤ '9') || isDecimalDigit c

theorem inPhone_of_isPhone {s : String} (h : isPhone s = true) :
    s.toList.head? = some '+' ∧ ∀ c ∈ s.toList, inPhone c = true := by
  rw [isPhone] at h
  split at h
  · next first more text =>
    simp only [Bool.and_eq_true, List.all_eq_true] at h
    rw [text]
    refine ⟨rfl, fun c hc => ?_⟩
    rcases List.mem_cons.1 hc with rfl | hc
    · rfl
    · rcases List.mem_cons.1 hc with rfl | hc
      · simp [inPhone, h.1.1.1]
      · rw [inPhone, h.2 c hc, Bool.or_true]
  · cases h

/-! ## Codes -/

theorem length_of_isCountry {s : String} (h : isCountry s = true) :
    s.toList.length = 2 ∧ ∀ c ∈ s.toList, isAsciiLetter c = true := by
  have codes : ∀ s ∈ countryCodes, s.toList.length = 2 ∧ s.toList.all isAsciiLetter = true := by
    decide +kernel
  obtain ⟨length, letters⟩ := codes s (List.contains_iff_mem.1 h)
  exact ⟨length, List.all_eq_true.1 letters⟩

theorem length_of_isCurrency {s : String} (h : isCurrency s = true) :
    s.toList.length = 3 ∧ ∀ c ∈ s.toList, isAsciiLetter c = true := by
  have codes : ∀ s ∈ currencyCodes, s.toList.length = 3 ∧ s.toList.all isAsciiLetter = true := by
    decide +kernel
  obtain ⟨length, letters⟩ := codes s (List.contains_iff_mem.1 h)
  exact ⟨length, List.all_eq_true.1 letters⟩

/-! ## Labels -/

/-- Whether a character may stand in a label. -/
def inLabel (c : Char) : Bool := isAsciiLetter c || isAsciiDigit c || c == '-'

theorem inLabel_iff {c : Char} :
    inLabel c = true ↔ isAsciiLetter c = true ∨ isAsciiDigit c = true ∨ c = '-' := by
  simp [inLabel, or_assoc]

theorem IsDomain.inLabel {cs : List Char} (h : IsDomain cs) :
    ∀ c ∈ cs, inLabel c = true ∨ c = '.' := fun _ hc =>
  (h.inside hc).imp_left inLabel_iff.2

/-- The last label of a host name holds letters only, so some character of the name is one. -/
theorem of_isHostname {s : String} (h : isHostname s = true) :
    (∀ c ∈ s.toList, inLabel c = true ∨ c = '.') ∧ '.' ∈ s.toList ∧
      ∃ c ∈ s.toList, isAsciiLetter c = true := by
  obtain ⟨-, domain, top, found, two, -, letters⟩ := isHostname_iff.1 h
  refine ⟨domain.inLabel, domain.point_mem, ?_⟩
  obtain ⟨c, hc⟩ := List.exists_mem_of_length_pos (Nat.lt_of_lt_of_le Nat.zero_lt_two two)
  have inText := mem_fields_iff.1 ⟨top, List.mem_of_getLast? found, hc⟩
  exact ⟨c, inText.1, letters c hc⟩

theorem of_isEmail {s : String} (h : isEmail s = true) :
    (∀ c ∈ s.toList, inMailbox c = true ∨ c = '@' ∨ inLabel c = true ∨ c = '.') ∧
      '@' ∈ s.toList := by
  obtain ⟨mailbox, domain, whole, -, inside, labels⟩ := isEmail_iff.1 h
  rw [whole]
  refine ⟨?_, List.mem_append_right _ List.mem_cons_self⟩
  simp only [List.forall_mem_append, List.forall_mem_cons]
  refine ⟨fun c hc => .inl (inside c hc), .inr (.inl trivial), fun c hc => ?_⟩
  exact .inr (.inr (labels.inLabel c hc))

/-! ## Addresses -/

/-- Whether a character may stand in an IPv4 address. -/
def inIpv4 (c : Char) : Bool := isAsciiDigit c || c == '.'

theorem inIpv4_of_isIpv4Chars {cs : List Char} (h : isIpv4Chars cs = true) :
    (∀ c ∈ cs, inIpv4 c = true) ∧ '.' ∈ cs := by
  simp only [isIpv4Chars, Bool.and_eq_true, beq_iff_eq, List.all_eq_true] at h
  obtain ⟨four, octets⟩ := h
  constructor
  · intro c hc
    by_cases point : c = '.'
    · rw [point]
      rfl
    · obtain ⟨part, hp, hm⟩ := mem_fields_iff.2 ⟨hc, point⟩
      have octet := octets part hp
      simp only [isOctet, Bool.and_eq_true, List.all_eq_true] at octet
      rw [inIpv4, octet.1.1.2 c hm, Bool.true_or]
  · rw [length_fields] at four
    exact List.count_pos_iff.1 (by omega)

/-- Whether a character may stand in an IPv6 address. -/
def inIpv6 (c : Char) : Bool := (hexDigit? c).isSome || c == ':' || c == '.'

theorem inIpv6_of_inIpv4 {c : Char} (h : inIpv4 c = true) : inIpv6 c = true := by
  rw [inIpv4, Bool.or_eq_true] at h
  rcases h with digit | point
  · have hex : (hexDigit? c).isSome = true := by
      simp only [isAsciiDigit, Bool.and_eq_true, decide_eq_true_eq] at digit
      simp [hexDigit?, digit]
    rw [inIpv6, hex]
    rfl
  · rw [inIpv6, point, Bool.or_true]

theorem inIpv6_of_isGroup {cs : List Char} (h : isGroup cs = true) : ∀ c ∈ cs, inIpv6 c = true := by
  simp only [isGroup, Bool.and_eq_true, List.all_eq_true] at h
  intro c hc
  rw [inIpv6, h.2 c hc]
  rfl

/-- Parts that are groups hold their characters only, and stand for at most one more than they are. -/
theorem of_groupCount? {tail : Bool} {parts : List (List Char)} {n : Nat}
    (h : groupCount? tail parts = some n) :
    (∀ part ∈ parts, ∀ c ∈ part, inIpv6 c = true) ∧ n ≤ parts.length + 1 := by
  fun_induction groupCount? tail parts generalizing n with
  | case1 =>
    cases h
    exact ⟨by simp, Nat.zero_le _⟩
  | case2 part group =>
    cases h
    rw [List.forall_mem_singleton]
    exact ⟨inIpv6_of_isGroup group, Nat.le_succ 1⟩
  | case3 part _ ipv4 =>
    cases h
    rw [Bool.and_eq_true] at ipv4
    rw [List.forall_mem_singleton]
    exact ⟨fun c hc => inIpv6_of_inIpv4 ((inIpv4_of_isIpv4Chars ipv4.2).1 c hc), le_refl 2⟩
  | case4 => cases h
  | case5 part parts _ group ih =>
    obtain ⟨m, hm, rfl⟩ := Option.map_eq_some_iff.1 h
    obtain ⟨inside, few⟩ := ih hm
    exact ⟨List.forall_mem_cons.2 ⟨inIpv6_of_isGroup group, inside⟩, Nat.succ_le_succ few⟩
  | case6 => cases h

theorem inIpv6_of_fields {cs : List Char} (h : ∀ part ∈ fields ':' cs, ∀ c ∈ part, inIpv6 c = true) :
    ∀ c ∈ cs, inIpv6 c = true := by
  intro c hc
  by_cases colon : c = ':'
  · rw [colon]
    rfl
  · obtain ⟨part, hp, hm⟩ := mem_fields_iff.2 ⟨hc, colon⟩
    exact h part hp c hm

theorem inIpv6_of_sideCount? {tail : Bool} {cs : List Char} {n : Nat}
    (h : sideCount? tail cs = some n) : ∀ c ∈ cs, inIpv6 c = true := by
  rw [sideCount?] at h
  split at h
  · next empty =>
    rw [List.isEmpty_iff.1 empty]
    exact fun c hc => nomatch hc
  · exact inIpv6_of_fields (of_groupCount? h).1

theorem eq_of_cutAtGap {cs front back : List Char} (h : cutAtGap cs = some (front, back)) :
    cs = front ++ ':' :: ':' :: back := by
  fun_induction cutAtGap cs generalizing front with
  | case1 cs =>
    cases h
    rfl
  | case2 c cs _ ih =>
    obtain ⟨⟨front', back'⟩, cut, he⟩ := Option.map_eq_some_iff.1 h
    obtain ⟨rfl, rfl⟩ := Prod.mk.inj he
    rw [ih cut, List.cons_append]
  | case3 => cases h

/-- An address without a gap has eight groups, the last two maybe as one part. -/
theorem of_isIpv6Chars {cs : List Char} (h : isIpv6Chars cs = true) :
    (∀ c ∈ cs, inIpv6 c = true) ∧ ':' ∈ cs ∧ (cutAtGap cs = none → 6 ≤ cs.count ':') := by
  rw [isIpv6Chars] at h
  split at h
  · next cut =>
    obtain ⟨inside, few⟩ := of_groupCount? (beq_iff_eq.1 h)
    rw [length_fields] at few
    have colons : 6 ≤ cs.count ':' := by omega
    exact ⟨inIpv6_of_fields inside, List.count_pos_iff.1 (by omega), fun _ => colons⟩
  · next front back cut =>
    have whole := eq_of_cutAtGap cut
    refine ⟨?_, ?_, fun none => ?_⟩
    · split at h
      · next m n hm hn =>
        rw [whole]
        simp only [List.forall_mem_append, List.forall_mem_cons]
        exact ⟨inIpv6_of_sideCount? hm, rfl, rfl, inIpv6_of_sideCount? hn⟩
      · cases h
    · rw [whole]
      exact List.mem_append_right _ List.mem_cons_self
    · rw [cut] at none
      cases none

/-! ## Dates and times -/

theorem of_isDateChars {cs : List Char} (h : isDateChars cs = true) :
    cs.length = 10 ∧ (∀ c ∈ cs, isAsciiDigit c = true ∨ c = '-') ∧ cs[4]? = some '-' ∧
      cs.head?.any isAsciiDigit = true := by
  unfold isDateChars at h
  split at h
  · simp only [Bool.and_eq_true, List.all_cons, List.all_nil] at h
    simp [h]
  · cases h

theorem cutAtGap_append (front : List Char) {cs : List Char} (h : ':' ∉ front)
    (hc : cutAtGap cs = none) : cutAtGap (front ++ cs) = none := by
  induction front with
  | nil => exact hc
  | cons c front ih =>
    rw [List.mem_cons, not_or] at h
    rw [List.cons_append, cutAtGap, ih h.2, Option.map_none]
    rintro rest he -
    exact absurd he.symm h.1

theorem cutAtGap_colon {c : Char} {cs : List Char} (h : c ≠ ':') (hc : cutAtGap (c :: cs) = none) :
    cutAtGap (':' :: c :: cs) = none := by
  rw [cutAtGap, hc, Option.map_none]
  rintro rest - he
  exact absurd (List.cons.inj he).1 h

theorem cutAtGap_eq_none_of_not_mem {cs : List Char} (h : ':' ∉ cs) : cutAtGap cs = none := by
  have whole := cutAtGap_append cs h (rfl : cutAtGap [] = none)
  rwa [List.append_nil] at whole

theorem of_zone {cs : List Char} (h : Zone AnyOffset cs) :
    cutAtGap cs = none ∧ cs.count ':' ≤ 1 := by
  cases h with
  | unsaid => decide
  | utc letter => rcases letter with rfl | rfl <;> decide
  | @joined sign hours minutes signed offset =>
    have none : ':' ∉ sign :: (hours ++ minutes) := by
      rw [List.mem_cons, not_or]
      exact ⟨by rcases signed with rfl | rfl <;> decide, not_mem_of_all offset.2.2 (by decide)⟩
    rw [List.count_eq_zero_of_not_mem none]
    exact ⟨cutAtGap_eq_none_of_not_mem none, Nat.zero_le 1⟩
  | @parted sign hours minutes signed offset =>
    obtain ⟨a, b, c, d, rfl, rfl, ha, hb, hc, hd⟩ := offset.exists_digits
    have front : ':' ∉ [sign, a, b] := by
      rcases signed with rfl | rfl <;>
        simp [(ne_colon_of_isDecimalDigit ha).symm, (ne_colon_of_isDecimalDigit hb).symm]
    have back : ':' ∉ [c, d] := by
      simp [(ne_colon_of_isDecimalDigit hc).symm, (ne_colon_of_isDecimalDigit hd).symm]
    have few : ([sign, a, b] ++ ':' :: [c, d]).count ':' ≤ 1 := by
      rw [List.count_append, List.count_cons_self, List.count_eq_zero_of_not_mem front,
        List.count_eq_zero_of_not_mem back]
    have gap : cutAtGap (':' :: [c, d]) = none :=
      cutAtGap_colon (ne_colon_of_isDecimalDigit hc) (cutAtGap_eq_none_of_not_mem back)
    exact ⟨cutAtGap_append [sign, a, b] front gap, few⟩

theorem of_looseTail {cs : List Char} (h : LooseTail cs) :
    cutAtGap cs = none ∧ cs.count ':' ≤ 1 := by
  obtain ⟨fraction, zone, rfl, hf, hz⟩ := h
  obtain ⟨gap, few⟩ := of_zone hz
  have none : ':' ∉ fraction := by
    rcases hf with rfl | ⟨digits, -, all, rfl⟩
    · exact List.not_mem_nil
    · rw [List.mem_cons, not_or]
      exact ⟨by decide, not_mem_of_all all (by decide)⟩
  rw [List.count_append, List.count_eq_zero_of_not_mem none, Nat.zero_add]
  exact ⟨cutAtGap_append fraction none gap, few⟩

/-- A time has no gap between colons, and at most one colon after its seconds. -/
theorem of_isTimeChars {cs : List Char} (h : isTimeChars cs = true) :
    cutAtGap cs = none ∧ cs.count ':' ≤ 3 ∧ ':' ∈ cs ∧ cs[4]? ≠ some '-' ∧
      cs.head?.any isAsciiDigit = true := by
  unfold isTimeChars at h
  split at h
  · next a b c d e f tail =>
    simp only [Bool.and_eq_true, List.all_cons, List.all_nil] at h
    obtain ⟨⟨⟨⟨⟨ha, hb, hc, hd, he, hf, -⟩, -⟩, -⟩, -⟩, ht⟩ := h
    have apart {x : Char} (hx : isAsciiDigit x = true) : x ≠ ':' ∧ x ≠ '-' := by
      constructor <;> rintro rfl <;> revert hx <;> decide
    obtain ⟨gap, few⟩ := of_looseTail (isTimeTail_iff.1 ht)
    refine ⟨?_, ?_, by simp, by simp [(apart hd).2], by simp [ha]⟩
    · refine cutAtGap_append [a, b] (by simp [(apart ha).1.symm, (apart hb).1.symm]) ?_
      refine cutAtGap_colon (apart hc).1 ?_
      refine cutAtGap_append [c, d] (by simp [(apart hc).1.symm, (apart hd).1.symm]) ?_
      refine cutAtGap_colon (apart he).1 ?_
      exact cutAtGap_append [e, f] (by simp [(apart he).1.symm, (apart hf).1.symm]) gap
    · simp only [List.count_cons, beq_iff_eq, (apart ha).1, (apart hb).1, (apart hc).1,
        (apart hd).1, (apart he).1, (apart hf).1, if_false, if_true]
      omega
  · cases h

theorem of_isDateTime {s : String} (h : isDateTime s = true) :
    s.toList[4]? = some '-' ∧ s.toList.head?.any isAsciiDigit = true ∧ ':' ∈ s.toList := by
  rw [isDateTime] at h
  split at h
  · next c rest cut =>
    simp only [Bool.and_eq_true] at h
    obtain ⟨⟨-, date⟩, time⟩ := h
    obtain ⟨ten, -, hyphen, digit⟩ := of_isDateChars date
    refine ⟨?_, ?_, ?_⟩
    · rwa [List.getElem?_take_of_lt (by decide)] at hyphen
    · rwa [List.head?_take, if_neg (by decide)] at digit
    · rw [← List.take_append_drop 10 s.toList, cut]
      exact List.mem_append_right _ (List.mem_cons_of_mem _ (of_isTimeChars time).2.2.1)
  · cases h

end TextFormat

end JsonShape
