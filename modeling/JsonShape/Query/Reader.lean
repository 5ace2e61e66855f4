import JsonShape.Json.Numeral
import JsonShape.Query
import JsonShape.Text.Ascii

/-!
# The text of a query

`Query.ofText?` reads a query: `$`, `@`, `.name`, `['name']`, `[0]`, `[0,1]`, `['a','b']`, `[1:3]`,
`[*]`, `.*`, `..name`, `..*`, `[?(condition)]` and `.length()`, one after another, with blanks
between. Each function here reads one part at the start of the remaining characters and gives what
it has read and what remains; of several ways to read on, the first that fits is taken.
-/

set_option autoImplicit false

namespace JsonShape

namespace Query

/-! ## Leaves -/

/-- Characters without the blanks in front. -/
def skip : List Char → List Char
  | ' ' :: cs => skip cs
  | '\t' :: cs => skip cs
  | '\n' :: cs => skip cs
  | '\r' :: '\n' :: cs => skip cs
  | cs => cs

/-- What follows a word at the start of characters. -/
def after? (word : String) (cs : List Char) : Option (List Char) :=
  if word.toList.isPrefixOf cs then some (cs.drop word.length) else none

/-- What follows a word at the start of characters, blanks between its letters. -/
def spaced? : List Char → List Char → Option (List Char)
  | [], cs => some cs
  | w :: ws, cs => match skip cs with
    | c :: rest => if c = w then spaced? ws rest else none
    | [] => none

/-- Whether a character may stand in a name without quotes. -/
def inName (c : Char) : Bool :=
  ('a' ≤ c && c ≤ 'z') || ('A' ≤ c && c ≤ 'Z') || isAsciiDigit c || "_-/\\#".toList.contains c

/-- A name without quotes. -/
def name? (cs : List Char) : Option (String × List Char) :=
  match after? "length()" cs, cs.span inName with
  | none, (c :: name, rest) => some (String.ofList (c :: name), rest)
  | _, _ => none

/-- What is between quotes, escapes as they are written, up to the closing quote. -/
def quoted? (quote : Char) : List Char → Option (List Char × List Char)
  | [] => none
  | '\\' :: 'u' :: a :: b :: c :: d :: cs =>
    if [a, b, c, d].all fun x => (hexDigit? x).isSome then
      (quoted? quote cs).map fun (s, rest) => ('\\' :: 'u' :: a :: b :: c :: d :: s, rest)
    else none
  | '\\' :: c :: cs =>
    if "\"'\\/bfnrt()".toList.contains c then
      (quoted? quote cs).map fun (s, rest) => ('\\' :: c :: s, rest)
    else none
  | c :: cs =>
    if c = quote then some ([], cs)
    else if c = '"' ∨ c = '\'' then none
    else (quoted? quote cs).map fun (s, rest) => (c :: s, rest)

/-- A text in quotes of either kind. -/
def text? : List Char → Option (String × List Char)
  | '\'' :: cs => (quoted? '\'' cs).map fun (s, rest) => (String.ofList s, rest)
  | '"' :: cs => (quoted? '"' cs).map fun (s, rest) => (String.ofList s, rest)
  | _ => none

/-- A name in quotes and brackets. -/
def bracketed? : List Char → Option (String × List Char)
  | '[' :: cs => match text? cs with
    | some (s, ']' :: rest) => some (s, rest)
    | _ => none
  | _ => none

/-- A natural number without needless zeros. -/
def natural? : List Char → Option (Nat × List Char)
  | '0' :: cs => some (0, cs)
  | cs => match cs.span isAsciiDigit with
    | ([], _) => none
    | (digits, rest) => some (digitsValue digits, rest)

/-- An integer of 32 bits. -/
def bound? (cs : List Char) : Option (Int × List Char) :=
  let (negative, rest) := match cs with
    | '-' :: rest => (true, rest)
    | rest => (false, rest)
  (natural? rest).bind fun (n, rest) =>
    let value := Double.signed negative n
    if -0x80000000 ≤ value ∧ value < 0x80000000 then some (value, rest) else none

/-- Digits after a point, if they are there. -/
def fraction (cs : List Char) : List Char × List Char :=
  match cs with
  | '.' :: rest => match rest.span isAsciiDigit with
    | ([], _) => ([], cs)
    | (digits, rest) => ('.' :: digits, rest)
  | _ => ([], cs)

/-- An exponent, if it is there. -/
def exponent (cs : List Char) : List Char × List Char :=
  match cs with
  | e :: rest =>
    if e = 'e' ∨ e = 'E' then
      let (sign, more) := match rest with
        | '+' :: more => (['+'], more)
        | '-' :: more => (['-'], more)
        | more => ([], more)
      match more.span isAsciiDigit with
      | ([], _) => ([], cs)
      | (digits, rest) => (e :: sign ++ digits, rest)
    else ([], cs)
  | [] => ([], cs)

/-- A number. -/
def number? (cs : List Char) : Option (Number × List Char) := do
  let (sign, rest) := match cs with
    | '-' :: rest => (['-'], rest)
    | rest => ([], rest)
  let (whole, rest) ← natural? rest
  let (point, rest) := fraction rest
  let (power, rest) := exponent rest
  let n ← if point.isEmpty ∧ power.isEmpty ∧ whole = 0 then Number.ofInt? 0
    else
      (Numeral.ofChars? (sign ++ Nat.toDigits 10 whole ++ point ++ power)).bind
        Numeral.nearestNumber?
  some (n, rest)

/-! ## Lists in brackets -/

/-- More entries of a list, each after a comma. -/
def more {α : Type} (read : List Char → Option (α × List Char)) :
    (fuel : Nat) → List Char → List α × List Char
  | 0, cs => ([], cs)
  | fuel + 1, cs => match skip cs with
    | ',' :: rest => match read (skip rest) with
      | some (x, rest) =>
        let (xs, rest) := more read fuel rest
        (x :: xs, rest)
      | none => ([], cs)
    | _ => ([], cs)

/-- A list of two or more entries. -/
def several? {α : Type} (read : List Char → Option (α × List Char)) (cs : List Char) :
    Option (List α × List Char) :=
  match read cs with
  | some (x, rest) => match more read cs.length rest with
    | ([], _) => none
    | (xs, rest) => some (x :: xs, rest)
  | none => none

/-- A bound of a slice; zero if it is left out. -/
def boundOrZero (cs : List Char) : Int × List Char := (bound? cs).getD (0, cs)

/-- A slice. -/
def slice? (cs : List Char) : Option (Step × List Char) :=
  let (start, rest) := boundOrZero cs
  match skip rest with
  | ':' :: rest =>
    let (stop, rest) := boundOrZero (skip rest)
    match skip rest with
    | ':' :: rest => (natural? (skip rest)).map fun (n, rest) => (.slice start stop n, rest)
    | _ => some (.slice start stop 1, rest)
  | _ => none

/-- What stands in brackets, apart from conditions. -/
def inBrackets? (cs : List Char) : Option (Step × List Char) :=
  match several? text? cs with
  | some (names, rest) => some (.keys names, rest)
  | none => match several? number? cs with
    | some (numbers, rest) => some (.indexes numbers, rest)
    | none => match slice? cs with
      | some found => some found
      | none => (natural? cs).bind fun (n, rest) =>
        if n < 0x10000000000000000 then some (.index n, rest) else none

/-! ## Steps without conditions -/

/-- Two points, and a name or a star. -/
def deep? (cs : List Char) : Option (Step × List Char) :=
  (spaced? ['.', '.'] cs).bind fun rest =>
    let rest := skip rest
    match (name? rest).orElse fun _ => bracketed? rest with
    | some (name, rest) => some (.anywhere name, rest)
    | none => (after? "*" rest).map fun rest => (.everything, rest)

/-- A star, in brackets or after a point. -/
def star? (cs : List Char) : Option (Step × List Char) :=
  let inner := match cs with
    | '.' :: rest => rest
    | rest => rest
  match spaced? ['[', '*', ']'] inner with
  | some rest => some (.all, rest)
  | none => (spaced? ['.', '*'] cs).map fun rest => (.all, rest)

/-- A name, in brackets or after a point. -/
def field? : List Char → Option (Step × List Char)
  | '.' :: cs =>
    ((bracketed? cs).orElse fun _ => name? cs).map fun (name, rest) => (.key name, rest)
  | cs => (bracketed? cs).map fun (name, rest) => (.key name, rest)

/-- A length. -/
def length? (cs : List Char) : Option (Step × List Char) :=
  match cs with
  | '.' :: rest => do
    let rest ← after? "length" (skip rest)
    let rest ← spaced? ['(', ')'] rest
    some (.length, rest)
  | _ => none

/-- What follows an opening bracket, with or without a point in front. -/
def opened? : List Char → Option (List Char)
  | '.' :: cs => match skip cs with
    | '[' :: rest => some (skip rest)
    | _ => none
  | '[' :: rest => some (skip rest)
  | _ => none

/-- The signs of comparisons, in the order in which they are tried. -/
def signs : List (String × Comparison) :=
  [("==", .equal), ("!=", .unequal), ("~=", .pattern), (">=", .greaterOrEqual), (">", .greater),
    ("<=", .lessOrEqual), ("<", .less), ("in", .inside), ("nin", .notInside), ("size", .size),
    ("noneOf", .noneOf), ("anyOf", .anyOf), ("subsetOf", .subsetOf)]

/-- A sign of a comparison. -/
def sign? (cs : List Char) : Option (Comparison × List Char) :=
  signs.findSome? fun (word, comparison) => (after? word cs).map fun rest => (comparison, rest)

/-- The operand that steps are: where a list stands alone, it is meant literally. -/
def Operand.ofSteps : List Step → Operand
  | [.keys names] => .literal (.array (names.map .string))
  | [.indexes numbers] => .literal (.array (numbers.map .number))
  | [.key name] => .literal (.array [.string name])
  | steps => .path steps

/-- A literal value. -/
def literal? (cs : List Char) : Option (Json × List Char) :=
  match text? cs with
  | some (s, rest) => some (.string s, rest)
  | none => match number? cs with
    | some (n, rest) => some (.number n, rest)
    | none => match after? "true" cs with
      | some rest => some (.bool true, rest)
      | none => match after? "false" cs with
        | some rest => some (.bool false, rest)
        | none => (after? "null" cs).map fun rest => (.null, rest)

/-! ## Steps and conditions -/

mutual

/-- A step. -/
def step? : (fuel : Nat) → List Char → Option (Step × List Char)
  | 0, _ => none
  | fuel + 1, cs => match cs with
    | '$' :: rest => some (.root, rest)
    | '@' :: rest => match steps? fuel (skip rest) with
      | some (steps, rest) => some (.current steps, rest)
      | none => some (.current [], rest)
    | cs => match [deep?, star?, field?].findSome? fun read => read cs with
      | some found => some found
      | none => match opened? cs with
        | some inside => do
          let (step, rest) ← match inBrackets? inside with
            | some found => some found
            | none => filter? fuel inside
          match skip rest with
          | ']' :: rest => some (step, rest)
          | _ => none
        | none => length? cs

/-- One or more steps. -/
def steps? : (fuel : Nat) → List Char → Option (List Step × List Char)
  | 0, _ => none
  | fuel + 1, cs => match step? fuel cs with
    | some (step, rest) => match steps? fuel (skip rest) with
      | some (steps, rest) => some (step :: steps, rest)
      | none => some ([step], rest)
    | none => none

/-- A condition after its question mark. -/
def filter? : (fuel : Nat) → List Char → Option (Step × List Char)
  | 0, _ => none
  | fuel + 1, cs => do
    let rest ← spaced? ['?', '('] cs
    let (condition, rest) ← disjunction? fuel (skip rest)
    let rest ← spaced? [')'] rest
    some (.filter condition, rest)

/-- Conditions of which one must hold. -/
def disjunction? : (fuel : Nat) → List Char → Option (Condition × List Char)
  | 0, _ => none
  | fuel + 1, cs => match conjunction? fuel cs with
    | some (first, rest) =>
      match (after? "||" (skip rest)).bind fun rest => disjunction? fuel (skip rest) with
      | some (second, rest) => some (.or first second, rest)
      | none => some (first, rest)
    | none => none

/-- Conditions that must all hold. -/
def conjunction? : (fuel : Nat) → List Char → Option (Condition × List Char)
  | 0, _ => none
  | fuel + 1, cs => match negation? fuel cs with
    | some (first, rest) =>
      match (after? "&&" (skip rest)).bind fun rest => conjunction? fuel (skip rest) with
      | some (second, rest) => some (.and first second, rest)
      | none => some (first, rest)
    | none => none

/-- A condition, maybe with a `!` in front. -/
def negation? : (fuel : Nat) → List Char → Option (Condition × List Char)
  | 0, _ => none
  | fuel + 1, cs => match cs with
    | '!' :: rest => (comparison? fuel (skip rest)).map fun (c, rest) => (.not c, rest)
    | cs => comparison? fuel cs

/-- A comparison, an operand alone, or a condition in parentheses. -/
def comparison? : (fuel : Nat) → List Char → Option (Condition × List Char)
  | 0, _ => none
  | fuel + 1, cs => match operand? fuel cs with
    | some (left, rest) =>
      match (sign? (skip rest)).bind fun (sign, rest) =>
          (operand? fuel (skip rest)).map fun (right, rest) => (sign, right, rest) with
      | some (sign, right, rest) => some (.compare left sign right, rest)
      | none => some (.found left, rest)
    | none => match cs with
      | '(' :: rest => do
        let (condition, rest) ← disjunction? fuel (skip rest)
        let rest ← spaced? [')'] rest
        some (condition, rest)
      | _ => none

/-- An operand. -/
def operand? : (fuel : Nat) → List Char → Option (Operand × List Char)
  | 0, _ => none
  | fuel + 1, cs => match steps? fuel cs with
    | some (steps, rest) => some (.ofSteps steps, rest)
    | none => (literal? cs).map fun (v, rest) => (.literal v, rest)

end

/-- The query that a text is. -/
def ofText? (text : String) : Option (List Step) :=
  let cs := text.toList
  match steps? (10 * cs.length + 10) (skip cs) with
  | some (steps, rest) => if (skip rest).isEmpty then some steps else none
  | none => none

end Query

end JsonShape
