import Mathlib.Data.String.Basic
import JsonShape.Proofs.Shape.WellFormed

/-!
# Shapes, node by node

`Node s t`: the shape `s` is a node of the tree `t`, which is `t` itself or a node of what is directly
inside it (`Shape.children`). `Shape.KeepsRules` are the rules for shapes said of one node: of its own
form, of its range or keys, and of the forms of its children.

`check_eq_none_iff`: the check passes exactly the trees of which every node keeps the rules, whatever
the tree, with ranges of any doubles and keys in any order.
-/

set_option autoImplicit false

namespace JsonShape

namespace Shape

/-! ## Nodes -/

/-- The shapes directly inside a shape. -/
def children : Shape → List Shape
  | array items => [items]
  | object f => (f.required ++ f.optional).map Prod.snd
  | nullable inner => [inner]
  | anyOf alternatives => alternatives
  | unknown | boolean | int _ | float _ | string _ => []

/-- A shape is a node of a tree: the tree itself, or a node of what is directly inside it. -/
inductive Node : Shape → Shape → Prop where
  | root (t : Shape) : Node t t
  | inside {s t u : Shape} : u ∈ t.children → Node s u → Node s t

/-- The nodes of a tree are its root and the nodes of its children. -/
theorem forall_node_iff {P : Shape → Prop} {t : Shape} :
    (∀ s, Node s t → P s) ↔ P t ∧ ∀ u ∈ t.children, ∀ s, Node s u → P s := by
  constructor
  · intro h
    exact ⟨h t (.root t), fun u hu s hs => h s (.inside hu hs)⟩
  · rintro ⟨root, inside⟩ s (_ | ⟨hu, hs⟩)
    · exact root
    · exact inside _ hu s hs

theorem mem_children_object {required optional : Entries Shape} {u : Shape} :
    u ∈ (object ⟨required, optional⟩).children ↔
      (∃ e ∈ required, e.2 = u) ∨ ∃ e ∈ optional, e.2 = u := by
  rw [children, List.map_append, List.mem_append, List.mem_map, List.mem_map]

/-- Induction on a shape from its children to it. -/
theorem induct_children {motive : Shape → Prop}
    (step : ∀ t : Shape, (∀ u ∈ t.children, motive u) → motive t) (t : Shape) : motive t := by
  induction t using Shape.induct with
  | unknown => exact step _ (by simp [children])
  | boolean => exact step _ (by simp [children])
  | int range => exact step _ (by simp [children])
  | float range => exact step _ (by simp [children])
  | string format => exact step _ (by simp [children])
  | array items ih => exact step _ (by simpa [children] using ih)
  | object required optional ihr iho =>
    refine step _ fun u hu => ?_
    rcases mem_children_object.1 hu with ⟨e, he, rfl⟩ | ⟨e, he, rfl⟩
    · exact ihr e he
    · exact iho e he
  | nullable inner ih => exact step _ (by simpa [children] using ih)
  | anyOf alternatives ih => exact step _ ih

/-! ## Rules for one node -/

/-- Shapes of numbers, integers or not. -/
def IsNumeric (t : Shape) : Prop := t.form = .int ∨ t.form = .float

/-- Shapes of the same form, integers and other numbers being one. -/
def SameKind (s t : Shape) : Prop := s.form = t.form ∨ s.IsNumeric ∧ t.IsNumeric

/-- The rules for one node: null stands once, alternatives are two or more and each of a kind of
values of its own, a key is required or optional and its values are known, ranges are finite and the
right way round. -/
def KeepsRules : Shape → Prop
  | nullable inner => inner.form ≠ .nullable
  | anyOf alternatives =>
    2 ≤ alternatives.length ∧
      (∀ t ∈ alternatives, t.form ≠ .any ∧ t.form ≠ .nullable ∧ t.form ≠ .unknown) ∧
      alternatives.Pairwise fun s t => ¬ SameKind s t
  | object f =>
    (∀ key, ¬ (key ∈ Entries.keys f.required ∧ key ∈ Entries.keys f.optional)) ∧
      ∀ e ∈ f.required ++ f.optional, e.2.form ≠ .unknown
  | int range | float range => range.Valid
  | unknown | boolean | string _ | array _ => True

theorem isUnknown_eq_false_iff {t : Shape} : t.isUnknown = false ↔ t.form ≠ .unknown := by
  cases t <;> simp [isUnknown, form]

theorem isNullable_eq_false_iff {t : Shape} : t.isNullable = false ↔ t.form ≠ .nullable := by
  cases t <;> simp [isNullable, form]

theorem isSome_slot?_iff {t : Shape} :
    t.slot?.isSome = true ↔ t.form ≠ .any ∧ t.form ≠ .nullable ∧ t.form ≠ .unknown := by
  cases t <;> simp [slot?, form]

/-- Of shapes that each have a slot, those of the same kind have the same one. -/
theorem sameKind_iff {s t : Shape} (hs : s.slot?.isSome = true) (ht : t.slot?.isSome = true) :
    SameKind s t ↔ s.slot? = t.slot? := by
  cases s <;> simp [slot?] at hs <;> cases t <;> simp [slot?] at ht <;>
    simp [SameKind, IsNumeric, form, slot?]

theorem nodup_slots_iff {ts : List Shape} (h : ∀ t ∈ ts, t.slot?.isSome = true) :
    (ts.map slot?).Nodup ↔ ts.Pairwise fun s t => ¬ SameKind s t := by
  rw [List.Nodup, List.pairwise_map]
  refine List.Pairwise.iff_of_mem fun hs ht => ?_
  rw [sameKind_iff (h _ hs) (h _ ht)]

/-! ## All nodes -/

/-- A shape is sound if its root keeps the rules and its children are sound. -/
theorem sound_iff_children (t : Shape) :
    t.Sound ↔ t.KeepsRules ∧ ∀ u ∈ t.children, u.Sound := by
  match t with
  | unknown | boolean | string _ => simp [Sound, KeepsRules, children]
  | int range | float range => simp [Sound, KeepsRules, children]
  | array items => simp [Sound, KeepsRules, children]
  | nullable inner => simp [Sound, KeepsRules, children, isNullable_eq_false_iff]
  | object ⟨required, optional⟩ =>
    have apart : (∀ key, ¬ (key ∈ Entries.keys required ∧ key ∈ Entries.keys optional)) ↔
        ∀ key ∈ Entries.keys required, key ∉ Entries.keys optional := by simp only [not_and]
    have inside : (∀ u ∈ (object ⟨required, optional⟩).children, u.Sound) ↔
        ∀ e ∈ required ++ optional, e.2.Sound := by simp only [children, List.forall_mem_map]
    rw [Sound, soundProperties_iff, soundProperties_iff, ← List.forall_mem_append, KeepsRules, apart,
      inside, and_assoc, ← forall₂_and]
    simp only [isUnknown_eq_false_iff]
  | anyOf alternatives =>
    rw [Sound, soundAlternatives_iff, KeepsRules, children]
    constructor
    · rintro ⟨many, nodup, each⟩
      have slots := fun t ht => (each t ht).1
      exact ⟨⟨many, fun t ht => isSome_slot?_iff.1 (slots t ht), (nodup_slots_iff slots).1 nodup⟩,
        fun t ht => (each t ht).2⟩
    · rintro ⟨⟨many, forms, distinct⟩, sound⟩
      have slots := fun t ht => isSome_slot?_iff.2 (forms t ht)
      exact ⟨many, (nodup_slots_iff slots).2 distinct, fun t ht => ⟨slots t ht, sound t ht⟩⟩

/-- A shape is sound if every node keeps the rules. -/
theorem sound_iff_forall_node (t : Shape) : t.Sound ↔ ∀ s, Node s t → s.KeepsRules := by
  induction t using induct_children with
  | step t ih =>
    rw [sound_iff_children, forall_node_iff]
    exact and_congr_right fun _ => forall₂_congr ih

/-- The check passes exactly the shapes of which every node keeps the rules. -/
theorem check_eq_none_iff (t : Shape) : t.check = none ↔ ∀ s, Node s t → s.KeepsRules := by
  rw [check, breachAt_eq_none_iff, sound_iff_forall_node]

end Shape

end JsonShape
