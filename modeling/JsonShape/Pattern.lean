import JsonShape.Pattern.CharSet

/-!
# Patterns of text

A pattern tells which texts it fits: characters of a set, one part after another, one part or
another, and a part several times. `Pattern.ends` gives the places that a pattern reaches from a
place in a text, and `Pattern.isFoundIn` looks for it anywhere.
-/

set_option autoImplicit false

namespace JsonShape

/-- A condition on a place in a text, between two characters or at one of the ends. -/
inductive Boundary where
  | start
  | stop
  | lineStart
  | lineStop
  /-- Where a word begins or ends. -/
  | wordEdge
  | noWordEdge
deriving DecidableEq, Repr

/-- A pattern. -/
inductive Pattern where
  /-- The text without characters. -/
  | nothing
  /-- A character of a set. -/
  | one (set : CharSet)
  | boundary (kind : Boundary)
  | both (first second : Pattern)
  | either (first second : Pattern)
  /-- A part at least so many times, and so many times more at the most. -/
  | repeated (part : Pattern) (least : Nat) (more : Option Nat)
deriving DecidableEq, Repr

namespace Boundary

/-- Whether a place between two characters, if they are there, meets a condition. -/
def holds (before after : Option Char) : Boundary → Bool
  | start => before.isNone
  | stop => after.isNone
  | lineStart => before.all (· == '\n')
  | lineStop => after.all (· == '\n')
  | wordEdge => before.any CharSet.word.contains != after.any CharSet.word.contains
  | noWordEdge => before.any CharSet.word.contains == after.any CharSet.word.contains

end Boundary

namespace Pattern

/-- The places reached from some places in so many steps. -/
def reached (step : Nat → List Nat) : (count : Nat) → List Nat → List Nat
  | 0, places => places
  | count + 1, places => reached step count (places.flatMap step).eraseDups

/-- The places reached from some places in no more than so many steps. -/
def reachedWithin (step : Nat → List Nat) : (count : Nat) → List Nat → List Nat
  | 0, places => places
  | count + 1, places => places ++ reachedWithin step count (places.flatMap step).eraseDups

/-- The places that a pattern reaches from a place in a text. To repeat a part more often than the
text has characters, and once more, leads nowhere else. -/
def ends (text : Array Char) : Pattern → Nat → List Nat
  | nothing, i => [i]
  | one set, i => if text[i]?.any set.contains then [i + 1] else []
  | boundary kind, i =>
    let before := if i = 0 then none else text[i - 1]?
    if kind.holds before text[i]? then [i] else []
  | both first second, i => ((ends text first i).flatMap (ends text second)).eraseDups
  | either first second, i => (ends text first i ++ ends text second i).eraseDups
  | repeated part least more, i =>
    let enough := text.size + 1
    let step := ends text part
    (reachedWithin step (min (more.getD enough) enough)
      (reached step (min least enough) [i])).eraseDups

/-- Whether a pattern fits some part of a text. -/
def isFoundIn (p : Pattern) (text : String) : Bool :=
  let chars := text.toList.toArray
  (List.range (chars.size + 1)).any fun i => !(p.ends chars i).isEmpty

end Pattern

end JsonShape
