import JsonShape.Json.Written
import JsonShape.Proofs.Json.Nesting
import JsonShape.Proofs.Json.Tokens

/-!
# Reading printed values

`Json.written` is a value as a document that was written. The text of a value, indented or compact, is
that document (`Written.ofText?_pretty`, `Written.ofText?_compact`), and its value is the value with its
numbers read back (`Json.reread?`), unless arrays and objects nest too deep (`Written.json?_written`):
nothing else can go wrong.
-/

set_option autoImplicit false

namespace JsonShape

namespace Json

mutual

/-- A value as a document. -/
def written : Json → Written
  | null => .null
  | bool b => .bool b
  | number n => .number n.reread?
  | string s => .string (some s)
  | array items => .array (writtenItems items)
  | object members => .object (writtenMembers members)

/-- `written`, for each item. -/
def writtenItems : List Json → List Written
  | [] => []
  | v :: rest => written v :: writtenItems rest

/-- `written`, for each member. -/
def writtenMembers : List (String × Json) → List (Option String × Written)
  | [] => []
  | (k, v) :: rest => (some k, written v) :: writtenMembers rest

end

end Json

namespace Written

/-! ## From tokens -/

namespace Due

theorem run_cons {due next : Due} {t : Token} {ts : List Token} (h : due.step t = some next) :
    due.run (t :: ts) = next.run ts := by
  rw [run, h]

/-- The first item of an array is read like any value. -/
theorem run_firstItem (v : Json) (stack : List Frame) (ts : List Token) :
    (firstItem stack).run (v.tokens ++ ts) = (value (.array [] :: stack)).run (v.tokens ++ ts) := by
  -- no value begins with the token that would close the array
  match v with
  | .null => rfl
  | .bool b => rfl
  | .number n => rfl
  | .string s => rfl
  | .array [] => rfl
  | .array (v :: rest) =>
    rw [Json.tokens]
    rfl
  | .object [] => rfl
  | .object ((k, v) :: rest) =>
    rw [Json.tokens]
    rfl

mutual

/-- Tokens of a value where one is due. -/
theorem run_tokens (stack : List Frame) (ts : List Token) : ∀ v : Json,
    (value stack).run (v.tokens ++ ts) = (after v.written stack).run ts
  | .null => rfl
  | .bool b => rfl
  | .number n => rfl
  | .string s => rfl
  | .array [] => rfl
  | .array (v :: rest) => by
    have opened : (value stack).step .openArray = some (firstItem stack) := rfl
    rw [Json.tokens, List.cons_append, run_cons opened, List.append_assoc, run_firstItem,
      run_tokens (.array [] :: stack) (Json.tokensOfItems rest ++ ts) v, after,
      run_tokensOfItems [v.written] stack ts rest]
    rfl
  | .object [] => rfl
  | .object ((k, v) :: rest) => by
    have opened : (value stack).step .openObject = some (firstKey stack) := rfl
    have key : (firstKey stack).step (.string (some k)) = some (colon [] (some k) stack) := rfl
    have entered : (colon [] (some k) stack).step .colon =
        some (value (.object [] (some k) :: stack)) := rfl
    rw [Json.tokens, List.cons_append, List.cons_append, List.cons_append, run_cons opened,
      run_cons key, run_cons entered, List.append_assoc,
      run_tokens (.object [] (some k) :: stack) (Json.tokensOfMembers rest ++ ts) v, after,
      run_tokensOfMembers [(some k, v.written)] stack ts rest]
    rfl

theorem run_tokensOfItems (items : List Written) (stack : List Frame) (ts : List Token) :
    ∀ rest : List Json, (afterItem items stack).run (Json.tokensOfItems rest ++ ts) =
      (after (.array (items.reverse ++ Json.writtenItems rest)) stack).run ts
  | [] => by
    rw [Json.writtenItems, List.append_nil]
    rfl
  | v :: rest => by
    have next : (afterItem items stack).step .comma = some (value (.array items :: stack)) := rfl
    rw [Json.tokensOfItems, List.cons_append, run_cons next, List.append_assoc,
      run_tokens (.array items :: stack) (Json.tokensOfItems rest ++ ts) v, after,
      run_tokensOfItems (v.written :: items) stack ts rest, Json.writtenItems, List.reverse_cons,
      List.append_assoc, List.singleton_append]

theorem run_tokensOfMembers (members : List (Option String × Written)) (stack : List Frame)
    (ts : List Token) : ∀ rest : List (String × Json),
    (afterMember members stack).run (Json.tokensOfMembers rest ++ ts) =
      (after (.object (members.reverse ++ Json.writtenMembers rest)) stack).run ts
  | [] => by
    rw [Json.writtenMembers, List.append_nil]
    rfl
  | (k, v) :: rest => by
    have next : (afterMember members stack).step .comma = some (nextKey members stack) := rfl
    have key : (nextKey members stack).step (.string (some k)) =
        some (colon members (some k) stack) := rfl
    have entered : (colon members (some k) stack).step .colon =
        some (value (.object members (some k) :: stack)) := rfl
    rw [Json.tokensOfMembers, List.cons_append, List.cons_append, List.cons_append, run_cons next,
      run_cons key, run_cons entered, List.append_assoc,
      run_tokens (.object members (some k) :: stack) (Json.tokensOfMembers rest ++ ts) v, after,
      run_tokensOfMembers ((some k, v.written) :: members) stack ts rest, Json.writtenMembers,
      List.reverse_cons, List.append_assoc, List.singleton_append]

end

end Due

/-- The tokens of a value are that value as a document. -/
theorem ofTokens?_tokens (v : Json) : ofTokens? v.tokens = some v.written := by
  have read := Due.run_tokens [] [] v
  rw [List.append_nil] at read
  rw [ofTokens?, read]
  rfl

/-- The indented text of a value is that value as a document. -/
theorem ofText?_pretty (v : Json) : ofText? v.pretty = some v.written := by
  rw [ofText?, Json.pretty, String.toList_ofList, Token.scan_prettyChars, Option.bind_some,
    ofTokens?_tokens]

theorem ofText?_compact (v : Json) : ofText? v.compact = some v.written := by
  rw [ofText?, Json.compact, String.toList_ofList, Token.scan_compactChars, Option.bind_some,
    ofTokens?_tokens]

/-! ## Values -/

/-- A container takes one level of the room, and its contents the rest. -/
theorem map_of_room {α β : Type} (room n : Nat) (x : Option α) (f : α → β) :
    (if room = 0 then none else (if n ≤ room - 1 then x else none).map f) =
      if n + 1 ≤ room then x.map f else none := by
  by_cases empty : room = 0
  · rw [if_pos empty, if_neg (by omega)]
  · by_cases fits : n ≤ room - 1
    · rw [if_neg empty, if_pos fits, if_pos (by omega)]
    · rw [if_neg empty, if_neg fits, if_neg (by omega), Option.map_none]

mutual

/-- A value as a document denotes the value as it is read back, if it does not nest too deep. -/
theorem json?_written (room : Nat) : ∀ v : Json,
    json? room v.written = if v.nesting ≤ room then v.reread? else none
  | .null => rfl
  | .bool b => rfl
  | .number n => rfl
  | .string s => rfl
  | .array items => by
    rw [Json.written, json?, jsonItems?_written (room - 1) items, Json.nesting, map_of_room,
      Json.reread?]
  | .object members => by
    rw [Json.written, json?, jsonMembers?_written (room - 1) members, Json.nesting, map_of_room,
      Json.reread?]

theorem jsonItems?_written (room : Nat) : ∀ items : List Json,
    jsonItems? room (Json.writtenItems items) =
      if Json.nestingItems items ≤ room then Json.rereadItems? items else none
  | [] => rfl
  | v :: rest => by
    rw [Json.writtenItems, jsonItems?, json?_written room v, jsonItems?_written room rest,
      Json.nestingItems, Json.rereadItems?]
    by_cases first : v.nesting ≤ room
    · by_cases others : Json.nestingItems rest ≤ room
      · rw [if_pos first, if_pos others, if_pos (Nat.max_le.2 ⟨first, others⟩)]
      · rw [if_pos first, if_neg others, if_neg fun h => others (Nat.max_le.1 h).2]
        cases v.reread? <;> rfl
    · rw [if_neg first, if_neg fun h => first (Nat.max_le.1 h).1]
      rfl

theorem jsonMembers?_written (room : Nat) : ∀ members : List (String × Json),
    jsonMembers? room (Json.writtenMembers members) =
      if Json.nestingMembers members ≤ room then Json.rereadMembers? members else none
  | [] => rfl
  | (k, v) :: rest => by
    rw [Json.writtenMembers, jsonMembers?, json?_written room v, jsonMembers?_written room rest,
      Json.nestingMembers, Json.rereadMembers?]
    by_cases first : v.nesting ≤ room
    · by_cases others : Json.nestingMembers rest ≤ room
      · rw [if_pos first, if_pos others, if_pos (Nat.max_le.2 ⟨first, others⟩)]
        rfl
      · rw [if_pos first, if_neg others, if_neg fun h => others (Nat.max_le.1 h).2]
        cases v.reread? <;> rfl
    · rw [if_neg first, if_neg fun h => first (Nat.max_le.1 h).1]
      rfl

end

end Written

namespace Json

/-- A text that is a value as a document is read as the value with its numbers read back, members in order,
unless it nests too deep. -/
theorem read?_of_written {text : String} {v : Json} (h : Written.ofText? text = some v.written) :
    read? text =
      if v.nesting ≤ Written.maxNesting then v.reread?.map canonical else none := by
  rw [read?, h, Option.bind_some, Written.json?_written]
  split <;> rfl

theorem read?_pretty (v : Json) :
    read? v.pretty =
      if v.nesting ≤ Written.maxNesting then v.reread?.map canonical else none :=
  read?_of_written (Written.ofText?_pretty v)

theorem read?_compact (v : Json) :
    read? v.compact =
      if v.nesting ≤ Written.maxNesting then v.reread?.map canonical else none :=
  read?_of_written (Written.ofText?_compact v)

/-- A value in order whose numbers are read back is read from its text. -/
theorem read?_pretty_of_faithful {v : Json} (canonical : v.Canonical) (faithful : v.Faithful)
    (shallow : v.nesting ≤ Written.maxNesting) : read? v.pretty = some v := by
  rw [read?_pretty, if_pos shallow, reread?_eq_self_iff.2 faithful, Option.map_some,
    canonical_eq_self canonical]

theorem read?_compact_of_faithful {v : Json} (canonical : v.Canonical) (faithful : v.Faithful)
    (shallow : v.nesting ≤ Written.maxNesting) : read? v.compact = some v := by
  rw [read?_compact, if_pos shallow, reread?_eq_self_iff.2 faithful, Option.map_some,
    canonical_eq_self canonical]

end Json

end JsonShape
