import JsonShape.Json

/-!
# How deep values nest

`Json.nesting` counts the arrays and objects around the innermost value of a document, which is what a
reader of texts limits. Items and members nest one level less than what holds them.
-/

set_option autoImplicit false

namespace JsonShape.Json

mutual

/-- How many arrays and objects are inside one another, at most. -/
def nesting : Json → Nat
  | array items => nestingItems items + 1
  | object members => nestingMembers members + 1
  | _ => 0

/-- `nesting`, the most of all items. -/
def nestingItems : List Json → Nat
  | [] => 0
  | v :: rest => Max.max (nesting v) (nestingItems rest)

/-- `nesting`, the most of all members. -/
def nestingMembers : List (String × Json) → Nat
  | [] => 0
  | (_, v) :: rest => Max.max (nesting v) (nestingMembers rest)

end

theorem nestingItems_le_iff {items : List Json} {n : Nat} :
    nestingItems items ≤ n ↔ ∀ v ∈ items, v.nesting ≤ n := by
  induction items with
  | nil => simp [nestingItems]
  | cons v items ih => rw [nestingItems, Nat.max_le, ih, List.forall_mem_cons]

theorem nestingMembers_le_iff {members : List (String × Json)} {n : Nat} :
    nestingMembers members ≤ n ↔ ∀ m ∈ members, m.2.nesting ≤ n := by
  induction members with
  | nil => simp [nestingMembers]
  | cons m members ih => rw [nestingMembers, Nat.max_le, ih, List.forall_mem_cons]

theorem nesting_le_of_mem {items : List Json} {v : Json} (h : v ∈ items) :
    v.nesting ≤ nestingItems items := nestingItems_le_iff.1 (Nat.le_refl _) v h

theorem nesting_lt_of_mem_items {items : List Json} {v : Json} (h : v ∈ items) :
    v.nesting < (array items).nesting := by
  rw [nesting]
  exact Nat.lt_succ_of_le (nesting_le_of_mem h)

theorem nesting_lt_of_mem_members {members : List (String × Json)} {m : String × Json}
    (h : m ∈ members) : m.2.nesting < (object members).nesting := by
  rw [nesting]
  exact Nat.lt_succ_of_le (nestingMembers_le_iff.1 (Nat.le_refl _) m h)

/-- A list of which every value nests less deep than some of another list that holds arrays or objects
nests less deep than that. -/
theorem nestingItems_lt {vs ws : List Json} (some : ∃ v ∈ vs, 0 < v.nesting)
    (below : ∀ w ∈ ws, ∃ v ∈ vs, w.nesting < v.nesting) : nestingItems ws < nestingItems vs := by
  obtain ⟨v, hv, positive⟩ := some
  have most := nesting_le_of_mem hv
  have inner : nestingItems ws ≤ nestingItems vs - 1 := by
    refine nestingItems_le_iff.2 fun w hw => ?_
    obtain ⟨u, hu, less⟩ := below w hw
    have within := nesting_le_of_mem hu
    omega
  omega

end JsonShape.Json
