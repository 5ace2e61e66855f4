/-!
# Keyed entries

The members of an object: key and value pairs, at most one for a key, in increasing order of the
keys. Keys are compared character by character, which is also the order of their UTF-8 bytes.
`Entries.Ordered` states that order; every operation here keeps it.
-/

set_option autoImplicit false

namespace JsonShape

/-- Pairs of a key and a value. -/
abbrev Entries (α : Type) := List (String × α)

namespace Entries

variable {α β : Type}

/-- The keys, in order. -/
def keys (es : Entries α) : List String := es.map Prod.fst

/-- Keys increase from entry to entry, so that none comes twice. -/
def Ordered (es : Entries α) : Prop := (keys es).Pairwise (· < ·)

/-- The value of a key. -/
def get? (key : String) : Entries α → Option α
  | [] => none
  | (k, v) :: rest => if k = key then some v else get? key rest

/-- Whether a key has a value. -/
def has (key : String) (es : Entries α) : Bool := (get? key es).isSome

/-- The entries with a key's value set, in place of the one it had. -/
def insert (key : String) (value : α) : Entries α → Entries α
  | [] => [(key, value)]
  | (k, v) :: rest =>
    if key < k then (key, value) :: (k, v) :: rest
    else if k = key then (key, value) :: rest
    else (k, v) :: insert key value rest

/-- The entries with a key's value changed; all as it was if the key has none. -/
def update (key : String) (change : α → α) : Entries α → Entries α
  | [] => []
  | (k, v) :: rest => if k = key then (k, change v) :: rest else (k, v) :: update key change rest

/-- The entries without that of a key. -/
def erase (key : String) (es : Entries α) : Entries α := es.filter fun e => e.1 != key

/-- The values changed, the keys kept. -/
def mapValues (change : α → β) (es : Entries α) : Entries β :=
  es.map fun e => (e.1, change e.2)

/-- All entries of both; where they share a key, the second one's value stands. -/
def union (es more : Entries α) : Entries α :=
  more.foldl (fun all e => insert e.1 e.2 all) es

/-- Pairs in any order, put in order; of pairs with one key the last stands. -/
def ofList (pairs : List (String × α)) : Entries α :=
  union [] pairs

end Entries

end JsonShape
