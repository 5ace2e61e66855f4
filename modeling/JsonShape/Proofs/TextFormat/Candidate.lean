import Mathlib.Data.String.Basic
import JsonShape.Detectors
import JsonShape.Proofs.TextFormat.Characters
import JsonShape.Proofs.Uri.Parts

/-!
# At most one format

A few characters of a text and its length leave one format that it may have, the `candidate`, whether it
has it or not (`eq_candidate_of_recognises`). So no text has two formats, and the order in which they are
tried does not matter: a format is detected if it is looked for and the text has it
(`Detectors.detect_eq_some_iff`, `Detectors.recognises_exclusive`).
-/

set_option autoImplicit false

namespace JsonShape

namespace TextFormat

/-- The only format that characters may have. -/
def candidate (cs : List Char) : TextFormat :=
  if ':' ∈ cs then
    if cs.head?.any isAsciiDigit then
      if cs[4]? = some '-' then dateTime
      else if cutAtGap cs = none ∧ cs.count ':' ≤ 3 then time
      else ipv6
    else if cs.all inIpv6 then ipv6
    else uri
  else if '@' ∈ cs then email
  else if '.' ∈ cs then if cs.all inIpv4 then ipv4 else hostname
  else if cs.head? = some '+' then phone
  else if cs.length = 36 then uuid
  else if cs.length = 10 then date
  else if cs.length = 2 then country
  else currency

variable {s : String}

/-! ## Formats without colons -/

/-- A text without the characters that separate parts is told by its length, or by a plus in front. -/
theorem candidate_of_plain {p : Char → Bool} (h : ∀ c ∈ s.toList, p c = true) (colon : p ':' = false)
    (at_ : p '@' = false) (point : p '.' = false) :
    candidate s.toList =
      if s.toList.head? = some '+' then phone
      else if s.toList.length = 36 then uuid
      else if s.toList.length = 10 then date
      else if s.toList.length = 2 then country
      else currency := by
  rw [candidate, if_neg (not_mem_of_all h colon), if_neg (not_mem_of_all h at_),
    if_neg (not_mem_of_all h point)]

theorem head?_ne_plus {p : Char → Bool} (h : ∀ c ∈ s.toList, p c = true) (plus : p '+' = false) :
    s.toList.head? ≠ some '+' := fun hd =>
  not_mem_of_all h plus (List.mem_of_mem_head? hd)

theorem candidate_of_isUuid (h : isUuid s = true) : candidate s.toList = uuid := by
  have inside := inUuid_of_isHexGroups h
  have length : s.toList.length = 36 := Nat.succ.inj (length_of_isHexGroups h)
  rw [candidate_of_plain inside (by decide) (by decide) (by decide),
    if_neg (head?_ne_plus inside (by decide)), length]
  rfl

theorem candidate_of_isDate (h : isDate s = true) : candidate s.toList = date := by
  obtain ⟨length, inside, -, -⟩ := of_isDateChars h
  have inside : ∀ c ∈ s.toList, (isAsciiDigit c || c == '-') = true := by simpa using inside
  rw [candidate_of_plain inside (by decide) (by decide) (by decide),
    if_neg (head?_ne_plus inside (by decide)), length]
  rfl

theorem candidate_of_isPhone (h : isPhone s = true) : candidate s.toList = phone := by
  obtain ⟨plus, inside⟩ := inPhone_of_isPhone h
  rw [candidate_of_plain inside (by decide) (by decide) (by decide), if_pos plus]

theorem candidate_of_isCountry (h : isCountry s = true) : candidate s.toList = country := by
  obtain ⟨length, inside⟩ := length_of_isCountry h
  rw [candidate_of_plain inside (by decide) (by decide) (by decide),
    if_neg (head?_ne_plus inside (by decide)), length]
  rfl

theorem candidate_of_isCurrency (h : isCurrency s = true) : candidate s.toList = currency := by
  obtain ⟨length, inside⟩ := length_of_isCurrency h
  rw [candidate_of_plain inside (by decide) (by decide) (by decide),
    if_neg (head?_ne_plus inside (by decide)), length]
  rfl

theorem candidate_of_isEmail (h : isEmail s = true) : candidate s.toList = email := by
  obtain ⟨inside, at_⟩ := of_isEmail h
  have colon : ':' ∉ s.toList := by
    refine not_mem_of_all (p := fun c => inMailbox c || c == '@' || inLabel c || c == '.') ?_ (by decide)
    simpa [or_assoc] using inside
  rw [candidate, if_neg colon, if_pos at_]

theorem candidate_of_isIpv4 (h : isIpv4 s = true) : candidate s.toList = ipv4 := by
  obtain ⟨inside, point⟩ := inIpv4_of_isIpv4Chars h
  rw [candidate, if_neg (not_mem_of_all inside (by decide)),
    if_neg (not_mem_of_all inside (by decide)), if_pos point, if_pos (List.all_eq_true.2 inside)]

theorem not_isAsciiDigit_of_isAsciiLetter {c : Char} (h : isAsciiLetter c = true) :
    ¬ isAsciiDigit c = true := fun digit => by
  simp only [isAsciiDigit, isAsciiLetter, Bool.or_eq_true, Bool.and_eq_true,
    decide_eq_true_eq] at digit h
  have below : c < 'A' := lt_of_le_of_lt digit.2 (by decide)
  rcases h with small | capital
  · exact absurd small.1 (not_le.2 (lt_trans below (by decide)))
  · exact absurd capital.1 (not_le.2 below)

theorem candidate_of_isHostname (h : isHostname s = true) : candidate s.toList = hostname := by
  obtain ⟨inside, point, c, hc, letter⟩ := of_isHostname h
  have inside : ∀ c ∈ s.toList, (inLabel c || c == '.') = true := by simpa using inside
  -- an IPv4 address has no letters
  have numbers : ¬ s.toList.all inIpv4 = true := fun all => by
    have number := List.all_eq_true.1 all c hc
    rw [inIpv4, Bool.or_eq_true, beq_iff_eq] at number
    rcases number with digit | rfl
    · exact not_isAsciiDigit_of_isAsciiLetter letter digit
    · revert letter
      decide
  rw [candidate, if_neg (not_mem_of_all inside (by decide)),
    if_neg (not_mem_of_all inside (by decide)), if_pos point, if_neg numbers]

/-! ## Formats with colons -/

theorem candidate_of_isDateTime (h : isDateTime s = true) : candidate s.toList = dateTime := by
  obtain ⟨hyphen, digit, colon⟩ := of_isDateTime h
  rw [candidate, if_pos colon, if_pos digit, if_pos hyphen]

theorem candidate_of_isTime (h : isTime s = true) : candidate s.toList = time := by
  obtain ⟨gap, few, colon, hyphen, digit⟩ := of_isTimeChars h
  rw [candidate, if_pos colon, if_pos digit, if_neg hyphen, if_pos ⟨gap, few⟩]

theorem candidate_of_isIpv6 (h : isIpv6 s = true) : candidate s.toList = ipv6 := by
  obtain ⟨inside, colon, many⟩ := of_isIpv6Chars h
  have hyphen : s.toList[4]? ≠ some '-' := fun hd =>
    not_mem_of_all inside (by decide) (List.mem_of_getElem? hd)
  have colons : ¬ (cutAtGap s.toList = none ∧ s.toList.count ':' ≤ 3) := fun few => by
    have := many few.1
    omega
  rw [candidate, if_pos colon, if_neg hyphen, if_neg colons, if_pos (List.all_eq_true.2 inside)]
  exact ite_self _

theorem inIpv6_lowerAscii {c : Char} (h : inIpv6 c = true) : inIpv6 (lowerAscii c) = true := by
  by_cases capital : 'A' ≤ c ∧ c ≤ 'Z'
  · have check : ∀ c : Char, c.toNat < 91 → inIpv6 c = true → inIpv6 (lowerAscii c) = true :=
      forall_char_lt (by decide)
    exact check c (Nat.lt_succ_of_le capital.2) h
  · rwa [lowerAscii, if_neg capital]

/-- The letters of the special schemes are not all hexadecimal digits. -/
theorem schemeKind_eq_other {scheme : List Char} (h : ∀ c ∈ scheme, inIpv6 c = true) :
    Uri.schemeKind scheme = .other := by
  have foreign {name : List Char} (hn : name.all inIpv6 = false) : ¬ scheme = name := by
    rintro rfl
    rw [List.all_eq_true.2 h] at hn
    cases hn
  have special : ¬ ["http", "https", "ws", "wss", "ftp"].any (fun s => s.toList = scheme) = true := by
    intro found
    obtain ⟨name, hm, he⟩ := List.any_eq_true.1 found
    have names : ∀ name ∈ ["http", "https", "ws", "wss", "ftp"], name.toList.all inIpv6 = false := by
      decide
    exact foreign (names name hm) (of_decide_eq_true he).symm
  rw [Uri.schemeKind, if_neg (foreign (by decide)), if_neg special]

theorem candidate_of_isUri (h : isUri s = true) : candidate s.toList = uri := by
  rw [isUri, Bool.and_eq_true] at h
  obtain ⟨p, whole⟩ := Uri.exists_parts_of_namesHost h.2
  rw [← whole]
  have colon : ':' ∈ p.chars := Uri.Parts.mem_chars_iff.2 (.inr (.inr (.inl rfl)))
  have digit : ¬ p.chars.head?.any isAsciiDigit = true := by
    cases hc : p.chars.head? with
    | none => simp
    | some c =>
      rw [Option.any_some]
      rcases p.of_head?_chars hc with control | letter
      · intro digit
        rw [isAsciiDigit, Bool.and_eq_true, decide_eq_true_eq] at digit
        exact absurd (le_trans digit.1 control) (by decide)
      · exact not_isAsciiDigit_of_isAsciiLetter letter
  have foreign : ¬ p.chars.all inIpv6 = true := fun all => by
    rw [List.all_eq_true] at all
    have other : Uri.kindOf p.scheme = .other := by
      refine schemeKind_eq_other fun c hc => ?_
      obtain ⟨d, hd, rfl⟩ := List.mem_map.1 hc
      exact inIpv6_lowerAscii (all d (Uri.Parts.mem_chars_iff.2 (.inr (.inl hd))))
    have slashes : p.slashes = ['/', '/'] := by
      have introduces := p.introduces
      rwa [other] at introduces
    have slash : '/' ∈ p.chars := by simp [Uri.Parts.chars, slashes]
    have := all '/' slash
    revert this
    decide
  rw [candidate, if_pos colon, if_neg digit, if_neg foreign]

/-! ## All formats -/

theorem eq_candidate_of_recognises {f : TextFormat} (h : f.recognises s = true) :
    f = candidate s.toList := by
  cases f with
  | email => exact (candidate_of_isEmail h).symm
  | uri => exact (candidate_of_isUri h).symm
  | uuid => exact (candidate_of_isUuid h).symm
  | hostname => exact (candidate_of_isHostname h).symm
  | ipv4 => exact (candidate_of_isIpv4 h).symm
  | ipv6 => exact (candidate_of_isIpv6 h).symm
  | dateTime => exact (candidate_of_isDateTime h).symm
  | date => exact (candidate_of_isDate h).symm
  | time => exact (candidate_of_isTime h).symm
  | phone => exact (candidate_of_isPhone h).symm
  | country => exact (candidate_of_isCountry h).symm
  | currency => exact (candidate_of_isCurrency h).symm

end TextFormat

namespace Detectors

/-- A format is detected exactly if it is looked for and the text has it. -/
theorem detect_eq_some_iff {d : Detectors} {s : String} {f : TextFormat} :
    d.detect s = some f ↔ d.enabled f = true ∧ f.recognises s = true := by
  constructor
  · intro h
    have found := List.find?_some h
    rwa [Bool.and_eq_true] at found
  · rintro ⟨enabled, has⟩
    have all : f ∈ TextFormat.all := by cases f <;> decide
    cases found : d.detect s with
    | none =>
      have missing := List.find?_eq_none.1 found f all
      rw [enabled, has] at missing
      exact absurd rfl missing
    | some g =>
      have other := List.find?_some found
      rw [Bool.and_eq_true] at other
      rw [TextFormat.eq_candidate_of_recognises other.2, TextFormat.eq_candidate_of_recognises has]

/-- The format that is detected is looked for, and the only one that the text has. -/
theorem detect_eq_some_iff_only {d : Detectors} {s : String} {f : TextFormat} :
    d.detect s = some f ↔ d.enabled f = true ∧ ∀ g : TextFormat, g.recognises s = true ↔ g = f := by
  rw [detect_eq_some_iff]
  refine and_congr_right fun _ => ⟨fun has g => ⟨fun other => ?_, fun same => same ▸ has⟩,
    fun only => (only f).2 rfl⟩
  rw [TextFormat.eq_candidate_of_recognises other, TextFormat.eq_candidate_of_recognises has]

/-- Whatever list of all formats is gone through, the first one found is the one detected. -/
theorem find?_eq_detect (d : Detectors) (s : String) {order : List TextFormat}
    (complete : ∀ f, f ∈ order) :
    order.find? (fun f => d.enabled f && f.recognises s) = d.detect s := by
  cases found : d.detect s with
  | none =>
    rw [List.find?_eq_none]
    rintro f - has
    rw [Bool.and_eq_true] at has
    rw [detect_eq_some_iff.2 has] at found
    cases found
  | some f =>
    cases first : order.find? fun f => d.enabled f && f.recognises s with
    | none =>
      have missing := List.find?_eq_none.1 first f (complete f)
      rw [Bool.and_eq_true] at missing
      exact absurd (detect_eq_some_iff.1 found) missing
    | some g =>
      have has := List.find?_some first
      rw [Bool.and_eq_true] at has
      rw [← detect_eq_some_iff.2 has, found]

/-- No text has two formats. So the order in which formats are tried decides nothing, and what is detected
is the only format that the text has, if that is looked for, and none otherwise. -/
theorem recognises_exclusive (s : String) :
    (∀ f g : TextFormat, f.recognises s = true → g.recognises s = true → f = g) ∧
    (∀ (d : Detectors) (order : List TextFormat), (∀ f, f ∈ order) →
      order.find? (fun f => d.enabled f && f.recognises s) = d.detect s) ∧
    (∀ (d : Detectors) (f : TextFormat),
      d.detect s = some f ↔ d.enabled f = true ∧ ∀ g : TextFormat, g.recognises s = true ↔ g = f) ∧
    ∀ d : Detectors, d.detect s = Option.none ↔
      ∀ f : TextFormat, f.recognises s = true → d.enabled f = false := by
  refine ⟨fun f g hf hg => ?_, fun d _ => find?_eq_detect d s, fun d f => detect_eq_some_iff_only,
    fun d => ?_⟩
  · rw [TextFormat.eq_candidate_of_recognises hf, TextFormat.eq_candidate_of_recognises hg]
  · rw [Option.eq_none_iff_forall_ne_some]
    refine forall_congr' fun f => ?_
    rw [ne_eq, detect_eq_some_iff, not_and', Bool.not_eq_true]

end Detectors

end JsonShape
