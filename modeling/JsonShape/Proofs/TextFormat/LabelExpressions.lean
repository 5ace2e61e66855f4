import JsonShape.Proofs.TextFormat.Expressions
import JsonShape.Proofs.TextFormat.Labels

/-!
# Expressions of labels

The expressions of host names and e-mail addresses describe labels between points: a character of a
label, and maybe up to 61 more with one that is no hyphen after them, is a label
(`mem_language_labelParts_iff`), and labels that each have a point after them, before a last one, are
the fields of a text (`mem_pow_mul_iff`). So what is recognised is what the expressions fit, and both are
the same grammar (`recognises_labels`).
-/

set_option autoImplicit false

namespace JsonShape

open Pattern

namespace TextFormat

/-! ## Fields of the texts of a language -/

/-- Texts of one language that each have a point after them, before a text of another, are the fields
of a text. -/
theorem mem_pow_mul_iff {front back : Language Char} (hf : ∀ w ∈ front, '.' ∉ w)
    (hb : ∀ w ∈ back, '.' ∉ w) {n : Nat} {cs : List Char} :
    cs ∈ (front * (char '.').language) ^ n * back ↔
      ∃ parts last, fields '.' cs = parts ++ [last] ∧ parts.length = n ∧
        (∀ w ∈ parts, w ∈ front) ∧ last ∈ back := by
  induction n generalizing cs with
  | zero =>
    rw [pow_zero, one_mul]
    constructor
    · intro h
      exact ⟨[], cs, fields_eq_singleton (hb cs h), rfl, by simp, h⟩
    · rintro ⟨parts, last, cut, none, -, h⟩
      rw [List.length_eq_zero_iff.1 none] at cut
      rcases eq_append_of_fields_eq_cons cut with ⟨-, rfl⟩ | ⟨rest, -, empty⟩
      · exact h
      · obtain ⟨first, more, cut⟩ := exists_fields_eq_cons '.' rest
        rw [cut] at empty
        cases empty
  | succ n ih =>
    rw [pow_succ', mul_assoc, mul_assoc, Language.mem_mul]
    simp only [Language.mem_mul, ih, mem_language_char]
    constructor
    · rintro ⟨w, hw, _, ⟨_, rfl, rest, ⟨parts, last, cut, rfl, inside, h⟩, rfl⟩, rfl⟩
      refine ⟨w :: parts, last, ?_, rfl, List.forall_mem_cons.2 ⟨hw, inside⟩, h⟩
      rw [List.singleton_append, fields_append_cons, fields_eq_singleton (hf w hw), cut]
      rfl
    · rintro ⟨parts, last, cut, length, inside, h⟩
      obtain ⟨w, parts, rfl⟩ := List.exists_cons_of_length_eq_add_one length
      rw [List.forall_mem_cons] at inside
      rcases eq_append_of_fields_eq_cons cut with ⟨none, -⟩ | ⟨rest, rfl, more⟩
      · simp at none
      · exact ⟨w, inside.1, '.' :: rest, ⟨['.'], rfl, rest,
          ⟨parts, last, more, Nat.succ.inj length, inside.2, h⟩, rfl⟩, rfl⟩

/-! ## Labels -/

theorem contains_letters {c : Char} :
    CharSet.letters.contains c = true ↔ isAsciiLetter c = true := by
  simp [CharSet.letters, CharSet.contains_anyOf, CharSet.upper, CharSet.lower, CharSet.contains,
    isAsciiLetter, or_comm]

theorem contains_alnum {c : Char} :
    CharSet.alnum.contains c = true ↔ isAsciiLetter c = true ∨ isAsciiDigit c = true := by
  rw [← contains_letters]
  simp [CharSet.alnum, CharSet.letters, CharSet.contains_anyOf, CharSet.asciiDigits,
    CharSet.contains, isAsciiDigit, or_assoc]

theorem contains_labelSet {c : Char} :
    labelSet.contains c = true ↔ isAsciiLetter c = true ∨ isAsciiDigit c = true ∨ c = '-' := by
  rw [← or_assoc, ← contains_alnum]
  simp [labelSet, CharSet.alnum, CharSet.contains_anyOf, CharSet.contains_single, or_assoc]

theorem or_of_ne_hyphen {c : Char} (hc : c ≠ '-')
    (h : isAsciiLetter c = true ∨ isAsciiDigit c = true ∨ c = '-') :
    isAsciiLetter c = true ∨ isAsciiDigit c = true :=
  h.imp_right fun h => h.resolve_right hc

theorem isLabel_singleton_iff {c : Char} :
    IsLabel [c] ↔ isAsciiLetter c = true ∨ isAsciiDigit c = true := by
  constructor
  · intro h
    exact or_of_ne_hyphen (by simpa using h.first) (h.inside c List.mem_cons_self)
  · intro h
    have hc := ne_hyphen h
    exact ⟨by simp, by simp, by simpa using h.imp_right .inl, by simpa using hc, by simpa using hc⟩

theorem isLabel_cons_append_iff {c d : Char} {cs : List Char} :
    IsLabel (c :: (cs ++ [d])) ↔
      (isAsciiLetter c = true ∨ isAsciiDigit c = true) ∧
        (cs.length ≤ 61 ∧ ∀ x ∈ cs, isAsciiLetter x = true ∨ isAsciiDigit x = true ∨ x = '-') ∧
        (isAsciiLetter d = true ∨ isAsciiDigit d = true) := by
  have last : (c :: (cs ++ [d])).getLast? = some d := by
    rw [← List.cons_append, List.getLast?_concat]
  constructor
  · intro h
    have inside := h.inside
    rw [List.forall_mem_cons, List.forall_mem_append, List.forall_mem_singleton] at inside
    have length := h.length_le
    rw [List.length_cons, List.length_append, List.length_singleton] at length
    have hc : c ≠ '-' := by simpa using h.first
    have hd : d ≠ '-' := by simpa [last] using h.last
    exact ⟨or_of_ne_hyphen hc inside.1, ⟨by omega, inside.2.1⟩, or_of_ne_hyphen hd inside.2.2⟩
  · rintro ⟨hc, ⟨length, middle⟩, hd⟩
    refine ⟨List.length_pos_of_ne_nil (List.cons_ne_nil _ _), ?_, ?_, by simpa using ne_hyphen hc, ?_⟩
    · rw [List.length_cons, List.length_append, List.length_singleton]
      omega
    · rw [List.forall_mem_cons, List.forall_mem_append, List.forall_mem_singleton]
      exact ⟨hc.imp_right .inl, middle, hd.imp_right .inl⟩
    · simpa [last] using ne_hyphen hd

/-- A label is a letter or a digit, and maybe more that ends so. -/
theorem mem_language_labelParts_iff {cs : List Char} :
    cs ∈ (labelParts.map language).prod ↔ IsLabel cs := by
  simp only [labelParts, List.map_cons, List.map_nil, List.prod_cons, List.prod_nil, mul_one,
    language_optional, language_sequence, Language.mem_mul, Language.mem_add, Language.mem_one,
    mem_language_one, mem_language_repeated_one, contains_alnum, contains_labelSet]
  constructor
  · rintro ⟨_, ⟨c, rfl, hc⟩, _, rfl | ⟨middle, ⟨-, few, inside⟩, _, ⟨d, rfl, hd⟩, rfl⟩, rfl⟩
    · exact isLabel_singleton_iff.2 hc
    · exact isLabel_cons_append_iff.2 ⟨hc, ⟨by simpa using few, inside⟩, hd⟩
  · intro h
    obtain ⟨c, rest, rfl⟩ := List.exists_cons_of_length_pos h.length_pos
    refine ⟨[c], ⟨c, rfl, ?_⟩, rest, ?_, rfl⟩
    · exact or_of_ne_hyphen (by simpa using h.first) (h.inside c List.mem_cons_self)
    · rcases List.eq_nil_or_concat rest with rfl | ⟨middle, d, rfl⟩
      · exact .inl rfl
      · rw [List.concat_eq_append] at h ⊢
        obtain ⟨-, ⟨few, inside⟩, hd⟩ := isLabel_cons_append_iff.1 h
        exact .inr ⟨middle, ⟨Nat.zero_le _, by simpa using few, inside⟩, [d], ⟨d, rfl, hd⟩, rfl⟩

theorem IsLabel.point_not_mem {label : List Char} (h : IsLabel label) : '.' ∉ label :=
  have whole : IsLabel (label ++ []) := (List.append_nil label).symm ▸ h
  whole.begins.point_not_mem

/-! ## Domains -/

/-- The texts that are labels. -/
def labels : Language Char := (labelParts.map language).prod

theorem mem_labels {cs : List Char} : cs ∈ labels ↔ IsLabel cs := mem_language_labelParts_iff

theorem exists_fields_eq_append (separator : Char) (cs : List Char) :
    ∃ parts last, fields separator cs = parts ++ [last] := by
  obtain ⟨first, more, cut⟩ := exists_fields_eq_cons separator cs
  rcases List.eq_nil_or_concat (fields separator cs) with none | ⟨parts, last, h⟩
  · rw [cut] at none
    cases none
  · exact ⟨parts, last, by rw [h, List.concat_eq_append]⟩

/-- A domain is one or more labels that each have a point after them, and a label. -/
theorem isDomain_iff_mem {cs : List Char} :
    IsDomain cs ↔ ∃ n, 1 ≤ n ∧ cs ∈ (labels * (char '.').language) ^ n * labels := by
  have clean : ∀ w ∈ labels, '.' ∉ w := fun w hw => (mem_labels.1 hw).point_not_mem
  simp only [mem_pow_mul_iff clean clean, mem_labels]
  constructor
  · rintro ⟨two, inside⟩
    obtain ⟨parts, last, cut⟩ := exists_fields_eq_append '.' cs
    rw [cut, List.forall_mem_append, List.forall_mem_singleton] at inside
    rw [cut, List.length_append, List.length_singleton] at two
    exact ⟨parts.length, by omega, parts, last, cut, rfl, inside⟩
  · rintro ⟨n, pos, parts, last, cut, rfl, inside⟩
    constructor
    · rw [cut, List.length_append, List.length_singleton]
      omega
    · rwa [cut, List.forall_mem_append, List.forall_mem_singleton]

/-! ## Host names -/

theorem fitsExpression_hostname_iff {s : String} :
    hostname.fitsExpression s = true ↔
      ∃ n, 1 ≤ n ∧ s.toList ∈ (labels * (char '.').language) ^ n *
        (repeated (one .letters) 2 (some 61)).language := by
  rw [fitsExpression_iff (show hostname.expressionParts? = some _ from rfl), hostnameParts]
  simp only [List.map_cons, List.map_nil, List.prod_cons, List.prod_nil, mul_one, labels,
    language_sequence, List.map_append, List.prod_append, mem_language_repeated_none_mul]

theorem isLabel_of_letters {cs : List Char} (pos : 1 ≤ cs.length) (le : cs.length ≤ 63)
    (letters : ∀ c ∈ cs, isAsciiLetter c = true) : IsLabel cs := by
  have hyphen : '-' ∉ cs := fun h => absurd (letters '-' h) (by decide)
  exact ⟨pos, le, fun c hc => .inl (letters c hc), fun h => hyphen (List.mem_of_head? h),
    fun h => hyphen (List.mem_of_getLast? h)⟩

theorem isHostname_iff_fitsExpression {s : String} :
    isHostname s = true ↔ s.utf8ByteSize ≤ 253 ∧ hostname.fitsExpression s = true := by
  have clean : ∀ w ∈ labels, '.' ∉ w := fun w hw => (mem_labels.1 hw).point_not_mem
  have top_clean : ∀ w ∈ (repeated (one .letters) 2 (some 61)).language, '.' ∉ w := by
    intro w hw point
    have letter := (mem_language_repeated_one.1 hw).2.2 '.' point
    revert letter
    decide
  rw [isHostname_iff, fitsExpression_hostname_iff]
  refine and_congr_right fun _ => ?_
  simp only [mem_pow_mul_iff clean top_clean, mem_labels, mem_language_repeated_one,
    contains_letters]
  constructor
  · rintro ⟨⟨two, inside⟩, top, found, low, high, letters⟩
    obtain ⟨parts, last, cut⟩ := exists_fields_eq_append '.' s.toList
    rw [cut, List.length_append, List.length_singleton] at two
    rw [cut, List.forall_mem_append] at inside
    rw [cut, List.getLast?_concat] at found
    obtain rfl := Option.some.inj found
    refine ⟨parts.length, by omega, parts, last, cut, rfl, inside.1, low, ?_, letters⟩
    rintro _ ⟨⟩
    exact high
  · rintro ⟨n, pos, parts, last, cut, rfl, inside, low, high, letters⟩
    have high : last.length ≤ 63 := high 61 rfl
    have label : IsLabel last := isLabel_of_letters (by omega) high letters
    rw [cut, List.getLast?_concat]
    refine ⟨⟨?_, ?_⟩, last, rfl, low, high, letters⟩
    · rw [cut, List.length_append, List.length_singleton]
      omega
    · rw [cut, List.forall_mem_append, List.forall_mem_singleton]
      exact ⟨inside, label⟩

/-! ## Addresses -/

theorem contains_mailboxSet {c : Char} : mailboxSet.contains c = true ↔ inMailbox c = true := by
  have mark : (∃ set ∈ ".!#$%&'*+/=?^_`\x7b|\x7d~-".toList.map CharSet.single,
      set.contains c = true) ↔ ".!#$%&'*+/=?^_`\x7b|\x7d~-".toList.contains c = true := by
    rw [List.contains_iff_mem]
    simp only [List.mem_map, exists_exists_and_eq_and, CharSet.contains_single, exists_eq_right']
  rw [mailboxSet, CharSet.contains_anyOf]
  simp only [List.mem_append, or_and_right, exists_or, mark]
  rw [← CharSet.contains_anyOf, inMailbox, Bool.or_eq_true, Bool.or_eq_true]
  exact or_congr_left contains_alnum

theorem fitsExpression_email_iff {s : String} :
    email.fitsExpression s = true ↔
      s.toList ∈ (repeated (one mailboxSet) 1 none).language * ((char '@').language *
        (labels * (repeated (sequence (char '.' :: labelParts)) 1 none).language)) := by
  rw [fitsExpression_iff (show email.expressionParts? = some _ from rfl), emailParts]
  simp only [List.map_append, List.map_cons, List.map_nil, List.prod_append, List.prod_cons,
    List.prod_nil, mul_one, mul_assoc, labels]

/-- A label and more, each after a point, are labels that each have a point after them and a label. -/
theorem mem_labels_mul_iff {cs : List Char} :
    cs ∈ labels * (repeated (sequence (char '.' :: labelParts)) 1 none).language ↔ IsDomain cs := by
  have turn (n : Nat) : labels * ((char '.').language * labels) ^ n =
      (labels * (char '.').language) ^ n * labels := by
    have once : SemiconjBy labels ((char '.').language * labels) (labels * (char '.').language) :=
      (mul_assoc _ _ _).symm
    exact once.pow_right n
  have parts : (sequence (char '.' :: labelParts)).language = (char '.').language * labels :=
    language_sequence _
  simp only [mem_mul_language_repeated_none, parts, turn, isDomain_iff_mem]

theorem isEmail_iff_fitsExpression {s : String} :
    isEmail s = true ↔ email.fitsExpression s = true := by
  rw [isEmail_iff, fitsExpression_email_iff]
  constructor
  · rintro ⟨mailbox, domain, text, some, inside, labels⟩
    have front : mailbox ∈ (repeated (one mailboxSet) 1 none).language :=
      mem_language_repeated_one.2 ⟨List.length_pos_iff.2 some, nofun,
        fun c hc => contains_mailboxSet.2 (inside c hc)⟩
    rw [text]
    exact ⟨mailbox, front, '@' :: domain,
      ⟨['@'], mem_language_char.2 rfl, domain, mem_labels_mul_iff.2 labels, rfl⟩, rfl⟩
  · rintro ⟨mailbox, front, _, ⟨_, sign, domain, back, rfl⟩, text⟩
    obtain ⟨pos, -, inside⟩ := mem_language_repeated_one.1 front
    rw [mem_language_char.1 sign] at text
    exact ⟨mailbox, domain, text.symm, List.length_pos_iff.1 pos,
      fun c hc => contains_mailboxSet.1 (inside c hc), mem_labels_mul_iff.1 back⟩

/-- What is recognised as a host name is what its expression fits, if it has no more than 253 bytes: labels
with points between, of which the last is two or more letters. What is recognised as an e-mail address is
what its expression fits: a mailbox and a domain on both sides of the only `@`. -/
theorem recognises_labels (s : String) :
    (hostname.recognises s = true ↔
      s.utf8ByteSize ≤ 253 ∧ hostname.fitsExpression s = true) ∧
    (email.recognises s = true ↔ email.fitsExpression s = true) ∧
    (hostname.recognises s = true ↔
      s.utf8ByteSize ≤ 253 ∧ IsDomain s.toList ∧
        ∃ top, (fields '.' s.toList).getLast? = some top ∧ 2 ≤ top.length ∧ top.length ≤ 63 ∧
          ∀ c ∈ top, isAsciiLetter c = true) ∧
    (email.recognises s = true ↔
      s.toList.count '@' = 1 ∧
        ∃ mailbox domain, s.toList = mailbox ++ '@' :: domain ∧ mailbox ≠ [] ∧
          (∀ c ∈ mailbox, isAsciiLetter c = true ∨ isAsciiDigit c = true ∨
            c ∈ ".!#$%&'*+/=?^_`\x7b|\x7d~-".toList) ∧
          IsDomain domain) := by
  refine ⟨isHostname_iff_fitsExpression, isEmail_iff_fitsExpression, isHostname_iff, ?_⟩
  have mark (c : Char) : inMailbox c = true ↔
      isAsciiLetter c = true ∨ isAsciiDigit c = true ∨ c ∈ ".!#$%&'*+/=?^_`\x7b|\x7d~-".toList := by
    rw [inMailbox, Bool.or_eq_true, Bool.or_eq_true, List.contains_iff_mem, or_assoc]
  show isEmail s = true ↔ _
  simp only [isEmail_iff, mark]
  constructor
  · rintro ⟨mailbox, domain, text, some, inside, labels⟩
    refine ⟨?_, mailbox, domain, text, some, inside, labels⟩
    have front : '@' ∉ mailbox := fun hm => absurd (inside '@' hm) (by decide)
    rw [text, List.count_append, List.count_cons_self, List.count_eq_zero_of_not_mem front,
      List.count_eq_zero_of_not_mem labels.at_not_mem]
  · rintro ⟨-, parts⟩
    exact parts

end TextFormat

end JsonShape
