import Mathlib.Data.List.TakeDrop
import Mathlib.Data.String.Basic
import JsonShape.Proofs.Text.Fields
import JsonShape.Records

/-!
# How record paths are spelled

A path is a list of segments between points, each a name, brackets, or a name followed by brackets.
The root `$` may come first, with a point after it or with brackets of its own. `Index`, `Name`,
`Segment` and `Spelling` hold what a text needs to be cut in one way only.

The reader finds the segments again (`Spelling.parts_text`). It understands a segment with one pair
of brackets at most (`Segment.ofChars?_chars`), and no other one (`Segment.ofChars?_eq_none`).
Without a star a path is no query, and neither is one with a negative index
(`Spelling.isQuery_of_starless`, `Spelling.isQuery_of_negative`).
-/

set_option autoImplicit false

namespace JsonShape

namespace RecordPath

/-! ## Indices -/

/-- What stands in front of the digits of an index. -/
inductive Sign where
  | absent
  | plus
  | minus
deriving DecidableEq, Repr

def Sign.chars : Sign → List Char
  | absent => []
  | plus => ['+']
  | minus => ['-']

/-- An index as it is spelled: decimal digits after an optional sign, of at most 64 bits. -/
structure Index where
  sign : Sign
  digits : List Char
  nonempty : digits ≠ []
  decimal : digits.all isAsciiDigit = true
  fits : -0x8000000000000000 ≤ Double.signed (sign = .minus) (digitsValue digits) ∧
    Double.signed (sign = .minus) (digitsValue digits) < 0x8000000000000000

namespace Index

def chars (i : Index) : List Char := i.sign.chars ++ i.digits

def value (i : Index) : Int := Double.signed (i.sign = .minus) (digitsValue i.digits)

theorem sign_of_negative {i : Index} (h : i.value < 0) : i.sign = .minus := by
  by_contra other
  have natural : i.value = digitsValue i.digits := by
    rw [value, decide_eq_false other]
    rfl
  omega

theorem mem_chars {i : Index} {c : Char} (h : c ∈ i.chars) :
    isAsciiDigit c = true ∨ c = '+' ∨ c = '-' := by
  rcases List.mem_append.1 h with h | h
  · cases sign : i.sign <;> rw [sign] at h
    · cases h
    · exact .inr (.inl (List.mem_singleton.1 h))
    · exact .inr (.inr (List.mem_singleton.1 h))
  · exact .inl (List.all_eq_true.1 i.decimal c h)

/-- An index is read as it is spelled. -/
theorem index?_chars (i : Index) : PathStep.index? i.chars = some i.value := by
  obtain ⟨sign, digits, nonempty, decimal, fits⟩ := i
  obtain ⟨d, ds, rfl⟩ := List.exists_cons_of_ne_nil nonempty
  have first := List.all_eq_true.1 decimal d List.mem_cons_self
  have plus : d ≠ '+' := by rintro rfl; revert first; decide
  have minus : d ≠ '-' := by rintro rfl; revert first; decide
  cases sign with
  | absent => simpa [PathStep.index?, chars, value, Sign.chars, decimal, plus, minus] using fits
  | plus => simpa [PathStep.index?, chars, value, Sign.chars, decimal] using fits
  | minus => simpa [PathStep.index?, chars, value, Sign.chars, decimal] using fits

/-- No index has a bracket in it. -/
theorem index?_eq_none {cs : List Char} (h : '[' ∈ cs) : PathStep.index? cs = none := by
  have undecimal {ds : List Char} (h : '[' ∈ ds) : ds.all isAsciiDigit = false := by
    rw [List.all_eq_false]
    exact ⟨'[', h, by decide⟩
  unfold PathStep.index?
  split
  next negative digits eq =>
    have inside : '[' ∈ digits := by
      split at eq <;> cases eq <;> simp_all
    simp [undecimal inside]

/-- The index of the last item. -/
def last : Index := ⟨.minus, ['1'], by decide, by decide, by decide⟩

end Index

/-! ## Brackets -/

/-- What stands between brackets: an index or a star. -/
inductive Bracket where
  | index (i : Index)
  | all

namespace Bracket

def inside : Bracket → List Char
  | index i => i.chars
  | all => ['*']

def chars (b : Bracket) : List Char := '[' :: b.inside ++ [']']

def selector : Bracket → Selector
  | index i => .item i.value
  | all => .all

theorem selector?_inside (b : Bracket) : PathStep.selector? b.inside = some b.selector := by
  cases b with
  | all => rfl
  | index i =>
    have other : i.chars ≠ ['*'] := fun eq => by
      have := Index.mem_chars (i := i) (c := '*') (by rw [eq]; exact List.mem_cons_self)
      revert this
      decide
    rw [inside, PathStep.selector?, if_neg other, Index.index?_chars]
    rfl

theorem selector?_eq_none {cs : List Char} (h : '[' ∈ cs) : PathStep.selector? cs = none := by
  have other : cs ≠ ['*'] := by
    rintro rfl
    revert h
    decide
  rw [PathStep.selector?, if_neg other, Index.index?_eq_none h]
  rfl

end Bracket

/-! ## Segments -/

/-- A name between points. -/
structure Name where
  text : String
  nonempty : text ≠ ""
  plain : '.' ∉ text.toList ∧ '[' ∉ text.toList ∧ '*' ∉ text.toList

/-- The name that is the root where a path begins with it. -/
def Name.dollar : Name := ⟨"$", by decide, by decide⟩

/-- What stands between points: a name, brackets, or both. -/
structure Segment where
  name : Option Name
  brackets : List Bracket
  nonempty : name = none → brackets ≠ []

namespace Segment

def nameChars (s : Segment) : List Char := s.name.elim [] fun name => name.text.toList

def chars (s : Segment) : List Char := s.nameChars ++ s.brackets.flatMap Bracket.chars

/-- The step that a segment with one pair of brackets at most stands for. -/
def step (s : Segment) : PathStep := ⟨s.name.map Name.text, s.brackets.head?.map Bracket.selector⟩

variable {s : Segment} {c : Char}

theorem plain_nameChars (s : Segment) :
    '.' ∉ s.nameChars ∧ '[' ∉ s.nameChars ∧ '*' ∉ s.nameChars := by
  unfold nameChars
  cases s.name with
  | none => exact ⟨nofun, nofun, nofun⟩
  | some n => exact n.plain

theorem nameChars_eq_nil_iff : s.nameChars = [] ↔ s.name = none := by
  unfold nameChars
  cases s.name with
  | none => simp
  | some n => simp [n.nonempty]

/-- A segment with one pair of brackets at most is a name alone, or has one pair. -/
theorem name_or_bracket (single : s.brackets.length ≤ 1) :
    (∃ n, s.name = some n ∧ s.brackets = []) ∨ ∃ b, s.brackets = [b] := by
  cases brackets : s.brackets with
  | nil =>
    obtain ⟨n, name⟩ := Option.ne_none_iff_exists'.1 fun name => s.nonempty name brackets
    exact .inl ⟨n, name, rfl⟩
  | cons b rest =>
    rw [brackets, List.length_cons] at single
    obtain rfl : rest = [] := List.length_eq_zero_iff.1 (by omega)
    exact .inr ⟨b, rfl⟩

/-- The characters of a segment. -/
theorem mem_chars (h : c ∈ s.chars) :
    (c ≠ '.' ∧ c ≠ '*') ∨ c = '*' ∧ .all ∈ s.brackets := by
  rcases List.mem_append.1 h with h | h
  · obtain ⟨point, -, star⟩ := s.plain_nameChars
    exact .inl ⟨fun eq => point (eq ▸ h), fun eq => star (eq ▸ h)⟩
  · obtain ⟨b, hb, hc⟩ := List.mem_flatMap.1 h
    rw [Bracket.chars, List.cons_append, List.mem_cons, List.mem_append, List.mem_singleton] at hc
    rcases hc with rfl | hc | rfl
    · exact .inl (by decide)
    · cases b with
      | all => exact .inr ⟨List.mem_singleton.1 hc, hb⟩
      | index i =>
        rcases Index.mem_chars hc with digit | rfl | rfl
        · refine .inl ⟨?_, ?_⟩ <;> rintro rfl <;> revert digit <;> decide
        · exact .inl (by decide)
        · exact .inl (by decide)
    · exact .inl (by decide)

theorem point_not_mem_chars (s : Segment) : '.' ∉ s.chars := by
  intro h
  rcases mem_chars h with ⟨h, -⟩ | ⟨h, -⟩
  · exact h rfl
  · revert h
    decide

theorem chars_ne_nil (s : Segment) : s.chars ≠ [] := by
  intro h
  obtain ⟨name, brackets⟩ := List.append_eq_nil_iff.1 h
  have some := s.nonempty (nameChars_eq_nil_iff.1 name)
  obtain ⟨b, bs, eq⟩ := List.exists_cons_of_ne_nil some
  rw [eq] at brackets
  cases brackets

/-- Brackets begin where the name ends. -/
theorem span_chars (s : Segment) :
    s.chars.span (· != '[') = (s.nameChars, s.brackets.flatMap Bracket.chars) := by
  have name : ∀ c ∈ s.nameChars, (c != '[') = true := fun c hc =>
    bne_iff_ne.2 fun eq => s.plain_nameChars.2.1 (eq ▸ hc)
  rw [List.span_eq_takeWhile_dropWhile, chars, List.takeWhile_append_of_pos name,
    List.dropWhile_append_of_pos name]
  cases s.brackets <;> simp [Bracket.chars]

/-- What stands between the first bracket and the last one is one pair's own text or has a bracket
inside. -/
theorem exists_inner (b : Bracket) (bs : List Bracket) :
    ∃ inner, (b :: bs).flatMap Bracket.chars = '[' :: (inner ++ [']']) ∧
      (bs = [] → inner = b.inside) ∧ (bs ≠ [] → '[' ∈ inner) := by
  induction bs generalizing b with
  | nil => exact ⟨b.inside, by simp [Bracket.chars], fun _ => rfl, fun h => absurd rfl h⟩
  | cons b' bs ih =>
    obtain ⟨inner, eq, -, -⟩ := ih b'
    refine ⟨b.inside ++ ']' :: '[' :: inner, ?_, nofun, fun _ => by simp⟩
    rw [List.flatMap_cons, eq, Bracket.chars]
    simp

/-- Brackets are read as what stands between the first and the last. -/
theorem ofChars?_of_inner {inner : List Char}
    (eq : s.brackets.flatMap Bracket.chars = '[' :: (inner ++ [']'])) :
    PathStep.ofChars? s.chars =
      (PathStep.selector? inner).map fun selector => ⟨s.name.map Name.text, some selector⟩ := by
  have last : (inner ++ [']']).getLast? = some ']' := List.getLast?_concat
  rw [PathStep.ofChars?, span_chars, eq]
  simp only [last, if_true, List.dropLast_concat]
  cases name : s.name with
  | none => rw [if_pos (List.isEmpty_iff.2 (nameChars_eq_nil_iff.2 name))]; rfl
  | some n =>
    have filled : ¬ s.nameChars.isEmpty = true := by
      rw [List.isEmpty_iff, nameChars_eq_nil_iff, name]
      exact nofun
    rw [if_neg filled]
    simp [nameChars, name]

/-- A segment with one pair of brackets at most is read as the step it stands for. -/
theorem ofChars?_chars (single : s.brackets.length ≤ 1) :
    PathStep.ofChars? s.chars = some s.step := by
  rcases name_or_bracket single with ⟨n, name, brackets⟩ | ⟨b, brackets⟩
  · rw [PathStep.ofChars?, span_chars, brackets]
    simp [step, nameChars, name, brackets]
  · obtain ⟨inner, eq, alone, -⟩ := exists_inner b []
    obtain rfl := alone rfl
    rw [ofChars?_of_inner (by rw [brackets, eq]), Bracket.selector?_inside, step, brackets]
    rfl

/-- A segment with more brackets is not understood. -/
theorem ofChars?_eq_none (many : 2 ≤ s.brackets.length) : PathStep.ofChars? s.chars = none := by
  obtain ⟨b, rest, brackets⟩ := List.exists_cons_of_length_pos (by omega : 0 < s.brackets.length)
  have more : rest ≠ [] := by
    rintro rfl
    rw [brackets, List.length_singleton] at many
    omega
  obtain ⟨inner, eq, -, inside⟩ := exists_inner b rest
  rw [ofChars?_of_inner (by rw [brackets, eq]), Bracket.selector?_eq_none (inside more)]
  rfl

/-- Nothing but the root is spelled like it. -/
theorem chars_ne_dollar (h : s.brackets = [] → ∀ name ∈ s.name, name.text ≠ "$") :
    s.chars ≠ ['$'] := by
  intro eq
  cases brackets : s.brackets with
  | nil =>
    obtain ⟨n, name⟩ := Option.ne_none_iff_exists'.1 fun name => s.nonempty name brackets
    have own : n.text.toList = ['$'] := by simpa [chars, nameChars, name, brackets] using eq
    exact h brackets n name (String.toList_injective own)
  | cons b bs =>
    obtain ⟨inner, closed, -⟩ := exists_inner b bs
    have inside : '[' ∈ s.chars := by simp [chars, brackets, closed]
    rw [eq] at inside
    revert inside
    decide

end Segment

/-! ## Paths -/

/-- How a path begins. -/
inductive Root where
  /-- With its first segment. -/
  | absent
  /-- With the root, and a point after it. -/
  | dotted
  /-- With the root, and brackets after it. -/
  | indexed (first : Bracket) (more : List Bracket)

def Root.brackets : Root → List Bracket
  | absent | dotted => []
  | indexed first more => first :: more

/-- A record path as it is spelled. -/
structure Spelling where
  root : Root
  segments : List Segment
  nonempty : segments = [] → root.brackets ≠ []
  /-- `$` is the root and no name. -/
  names : ∀ s ∈ segments, ∀ name ∈ s.name, name.text ≠ "$"

/-- A text between points is cut at them, whether the root stands in front or not. -/
theorem parts_of_intercalate {part : List Char} {parts : List (List Char)}
    (h : ∀ p ∈ part :: parts, '.' ∉ p) (some : part ≠ []) (own : part ≠ ['$']) :
    RecordPath.parts (String.ofList (['.'].intercalate (part :: parts))) = part :: parts ∧
      RecordPath.parts (String.ofList ('$' :: '.' :: ['.'].intercalate (part :: parts))) =
        part :: parts := by
  have cut := fields_intercalate (List.cons_ne_nil part parts) h
  obtain ⟨rest, joined⟩ := exists_intercalate_cons ['.'] part parts
  obtain ⟨c, cs, rfl⟩ := List.exists_cons_of_ne_nil some
  have bare : ¬ (['.'].intercalate ((c :: cs) :: parts) = [] ∨
      ['.'].intercalate ((c :: cs) :: parts) = ['$']) := by
    rw [joined]
    rintro (eq | eq)
    · cases eq
    · cases cs with
      | nil =>
        obtain ⟨rfl, -⟩ := List.cons.inj eq
        exact own rfl
      | cons c' cs => cases eq
  constructor
  · rw [RecordPath.parts, String.toList_ofList]
    split
    · next eq =>
      obtain ⟨rfl, point⟩ := List.cons.inj (joined.symm.trans eq)
      cases cs with
      | nil => exact absurd rfl own
      | cons c' cs =>
        obtain ⟨rfl, -⟩ := List.cons.inj point
        exact absurd (by simp) (h ('$' :: '.' :: cs) List.mem_cons_self)
    · rw [if_neg bare, cut]
  · rw [RecordPath.parts, String.toList_ofList]
    simp only [bare, if_false, cut]

namespace Spelling

variable {p : Spelling}

/-- The segments between the points; the root is one of them if it has brackets. -/
def parts (p : Spelling) : List Segment :=
  match p.root with
  | .absent | .dotted => p.segments
  | .indexed first more => ⟨some .dollar, first :: more, nofun⟩ :: p.segments

def chars (p : Spelling) : List Char :=
  let joined := ['.'].intercalate (p.parts.map Segment.chars)
  match p.root with
  | .absent | .indexed .. => joined
  | .dotted => '$' :: '.' :: joined

def text (p : Spelling) : String := String.ofList p.chars

theorem parts_eq_segments (unindexed : p.root.brackets = []) : p.parts = p.segments := by
  unfold parts
  cases root : p.root with
  | absent | dotted => rfl
  | indexed first more =>
    rw [root] at unindexed
    cases unindexed

theorem parts_ne_nil (p : Spelling) : p.parts ≠ [] := by
  have some := p.nonempty
  unfold parts
  cases root : p.root <;> simp_all [Root.brackets]

theorem chars_ne_dollar_of_mem_parts {s : Segment} (h : s ∈ p.parts) : s.chars ≠ ['$'] := by
  refine Segment.chars_ne_dollar fun brackets => ?_
  have names := p.names s
  unfold parts at h
  split at h
  · exact names h
  · exact names h
  · rcases List.mem_cons.1 h with rfl | h
    · cases brackets
    · exact names h

/-- The segments of a path are found again in its text. -/
theorem parts_text (p : Spelling) : RecordPath.parts p.text = p.parts.map Segment.chars := by
  obtain ⟨s, segments, eq⟩ := List.exists_cons_of_ne_nil p.parts_ne_nil
  have first : s ∈ p.parts := by rw [eq]; exact List.mem_cons_self
  have cut : ∀ part ∈ (s :: segments).map Segment.chars, '.' ∉ part :=
    List.forall_mem_map.2 fun s _ => s.point_not_mem_chars
  obtain ⟨plain, rooted⟩ :=
    parts_of_intercalate cut s.chars_ne_nil (chars_ne_dollar_of_mem_parts first)
  rw [text, chars, eq]
  cases p.root with
  | absent | indexed _ _ => exact plain
  | dotted => exact rooted

/-! ## Which paths are queries -/

/-- The brackets of a path, from left to right. -/
def brackets (p : Spelling) : List Bracket := p.parts.flatMap Segment.brackets

/-- The segments hold all characters but those that stand between or before them. -/
theorem exists_of_mem_chars {c : Char} (h : c ∈ p.chars) (point : c ≠ '.') (dollar : c ≠ '$') :
    ∃ s ∈ p.parts, c ∈ s.chars := by
  have joined : c ∈ ['.'].intercalate (p.parts.map Segment.chars) := by
    unfold chars at h
    split at h
    · exact h
    · exact h
    · simpa [point, dollar] using h
  have fields := fields_intercalate (mt List.map_eq_nil_iff.1 p.parts_ne_nil)
    (List.forall_mem_map.2 fun s _ => s.point_not_mem_chars)
  have inside := mem_fields_iff.2 ⟨joined, point⟩
  rw [fields] at inside
  simpa using inside

/-- Without a star there is no query. -/
theorem isQuery_of_starless (h : .all ∉ p.brackets) : Records.isQuery p.text = false := by
  have none : '*' ∉ p.chars := fun star => by
    obtain ⟨s, hs, hc⟩ := exists_of_mem_chars star (by decide) (by decide)
    rcases Segment.mem_chars hc with ⟨-, other⟩ | ⟨-, all⟩
    · exact other rfl
    · exact h (List.mem_flatMap.2 ⟨s, hs, all⟩)
  simp [Records.isQuery, text, none]

theorem hasNegative_of_infix {cs : List Char} (h : ['[', '-'] <:+: cs) :
    Records.hasNegative cs = true := by
  obtain ⟨front, back, rfl⟩ := h
  induction front with
  | nil => rfl
  | cons c front ih =>
    rw [List.cons_append, List.cons_append, Records.hasNegative, ih, Bool.or_true]

theorem infix_chars {s : Segment} (h : s ∈ p.parts) : s.chars <:+: p.chars := by
  have joined : s.chars <:+: ['.'].intercalate (p.parts.map Segment.chars) :=
    infix_intercalate (List.mem_map_of_mem h)
  unfold chars
  split
  · exact joined
  · exact joined
  · exact joined.trans ⟨['$', '.'], [], by simp⟩

/-- With a negative index there is no query, whatever else the path holds. -/
theorem isQuery_of_negative {i : Index} (h : .index i ∈ p.brackets) (negative : i.value < 0) :
    Records.isQuery p.text = false := by
  obtain ⟨s, hs, hb⟩ := List.mem_flatMap.1 h
  have minus : ['[', '-'] <:+: (Bracket.index i).chars :=
    ⟨[], i.digits ++ [']'], by
      rw [Bracket.chars, Bracket.inside, Index.chars, Index.sign_of_negative negative]
      rfl⟩
  have bracket : (Bracket.index i).chars <:+: s.brackets.flatMap Bracket.chars :=
    List.infix_of_mem_flatten (List.mem_map_of_mem hb)
  have segment : s.brackets.flatMap Bracket.chars <:+: s.chars := (List.suffix_append _ _).isInfix
  have whole := minus.trans (bracket.trans (segment.trans (infix_chars hs)))
  rw [Records.isQuery, text, String.toList_ofList, hasNegative_of_infix whole, Bool.not_true,
    Bool.and_false]

end Spelling

end RecordPath

end JsonShape
