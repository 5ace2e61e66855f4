/-!
# Punycode

The form in which a label beyond ASCII is written with letters, digits and hyphens: first its ASCII
characters, then, after a hyphen, a series of numbers, each of which tells where the next of its
other characters stands and by how much it exceeds the one before. `Punycode.decode?` reads the
form.
-/

set_option autoImplicit false

namespace JsonShape

namespace Punycode

/-- The value of a digit: letters come first, then `0` to `9`. -/
def digit? (c : Char) : Option Nat :=
  if 'a' ≤ c ∧ c ≤ 'z' then some (c.toNat - 'a'.toNat)
  else if '0' ≤ c ∧ c ≤ '9' then some (c.toNat - '0'.toNat + 26)
  else none

/-- The digit of a number that is its last if smaller, for the digit's place (36, 72, …) and the
bias. -/
def threshold (place bias : Nat) : Nat :=
  if place ≤ bias then 1 else if bias + 26 ≤ place then 26 else place - bias

/-- A number divided by 35 until it is small enough, and 36 for every division. -/
def scaled (n : Nat) : Nat × Nat :=
  if 455 < n then ((scaled (n / 35)).1, (scaled (n / 35)).2 + 36) else (n, 0)
termination_by n
decreasing_by all_goals exact Nat.div_lt_self (by omega) (by omega)

/-- The bias for the next number, after one that brought a label to `count` characters. -/
def adapted (number count : Nat) (first : Bool) : Nat :=
  let n := if first then number / 700 else number / 2
  match scaled (n + n / count) with
  | (n, bias) => bias + 36 * n / (n + 38)

/-- The number that digits start with, from a place and its weight on, added to a sum that fits 32
bits. -/
def number? (bias place weight sum : Nat) : List Char → Option Nat
  | [] => none
  | c :: cs => do
    let digit ← digit? c
    let next := sum + digit * weight
    if 0x100000000 ≤ next then none
    else if digit < threshold place bias then some next
    else if 0x100000000 ≤ weight * (36 - threshold place bias) then none
    else number? bias (place + 36) (weight * (36 - threshold place bias)) next cs

/-- How many digits the number takes that digits start with. -/
def numberLength (bias place : Nat) : List Char → Nat
  | [] => 0
  | c :: cs =>
    if (digit? c).any (· < threshold place bias) then 1
    else 1 + numberLength bias (place + 36) cs

/-- Characters of a label with those that numbers insert, after the last one at `position` of the
character with code `code`. -/
def insertAll (bias code position : Nat) (label digits : List Char) : Option (List Char) :=
  match digits with
  | [] => some label
  | c :: cs => do
    let number ← number? bias 36 1 position (c :: cs)
    let count := label.length + 1
    let code' := code + number / count
    if !code'.isValidChar then none
    else
      insertAll (adapted (number - position) count (position = 0)) code' (number % count + 1)
        (label.insertIdx (number % count) (Char.ofNat code'))
        ((c :: cs).drop (numberLength bias 36 (c :: cs)))
termination_by digits.length
decreasing_by
  have : 0 < numberLength bias 36 (c :: cs) := by
    rw [numberLength]
    split <;> omega
  simp only [List.length_drop, List.length_cons]
  omega

/-- The label that a text in Punycode stands for. The hyphen after the ASCII characters is the last
one; a text with none has no ASCII characters. -/
def decode? (cs : List Char) : Option (List Char) :=
  match cs.reverse.span (· != '-') with
  | (digits, _ :: c :: before) => insertAll 72 128 0 (c :: before).reverse digits.reverse
  | (_, [_]) => none
  | (digits, []) => insertAll 72 128 0 [] digits.reverse

end Punycode

end JsonShape
