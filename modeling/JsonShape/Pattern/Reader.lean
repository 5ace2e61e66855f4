import JsonShape.Pattern

/-!
# The text of a pattern

`Pattern.ofText?` reads a pattern in the usual notation of regular expressions: `.`, `[a-z]`, `|`,
`*`, `+`, `?`, `{2,3}`, `(…)`, `^`, `$` and escapes. Whether a repetition prefers few or many rounds
makes no difference to what a pattern fits.

Each function here reads one part at the start of the remaining characters and gives what it has
read and what remains.
-/

set_option autoImplicit false

namespace JsonShape

namespace Pattern

/-- What letters mean in a part of a pattern. -/
structure Flags where
  /-- Letters stand for themselves in either case. -/
  anyCase : Bool
  /-- `^` and `$` fit at the ends of lines. -/
  lines : Bool
  /-- `.` fits the end of a line too. -/
  dotAll : Bool

namespace Flags

/-- The flags that hold unless a pattern says otherwise. -/
def usual : Flags := ⟨false, false, false⟩

/-- Flags with one of them set or reset. -/
def set? (value : Bool) (f : Flags) : Char → Option Flags
  | 'i' => some { f with anyCase := value }
  | 'm' => some { f with lines := value }
  | 's' => some { f with dotAll := value }
  | 'U' => some f
  | 'u' => if value then some f else none
  | _ => none

end Flags

/-! ## Sets of characters -/

/-- What a character or an escape stands for. -/
inductive Atom where
  | char (c : Char)
  | set (set : CharSet)
  | place (kind : Boundary)

/-- A set of characters, with the letters in either case if the flags say so. -/
def inCase (flags : Flags) (set : CharSet) : CharSet :=
  if flags.anyCase then set.anyCase else set

/-- The character of a code point in hexadecimal digits. -/
def codePoint? (digits : List Char) : Option Char := do
  let n ← radixValue? 16 digits
  if digits.isEmpty ∨ !n.isValidChar then none else some (Char.ofNat n)

/-- A code point after the letter that introduces it: so many digits, or any in braces. -/
def code? (digits : Nat) : List Char → Option (Char × List Char)
  | '\x7b' :: cs => match cs.span (· != '\x7d') with
    | (inner, _ :: rest) => (codePoint? inner).map fun c => (c, rest)
    | _ => none
  | cs =>
    if cs.length < digits then none
    else (codePoint? (cs.take digits)).map fun c => (c, cs.drop digits)

/-- An escape after its backslash. -/
def escape? : List Char → Option (Atom × List Char)
  | [] => none
  | c :: cs => match c with
    | 'd' => some (.set .digits, cs)
    | 'D' => some (.set (.inverse .digits), cs)
    | 's' => some (.set .blanks, cs)
    | 'S' => some (.set (.inverse .blanks), cs)
    | 'w' => some (.set .word, cs)
    | 'W' => some (.set (.inverse .word), cs)
    | 'b' => some (.place .wordEdge, cs)
    | 'B' => some (.place .noWordEdge, cs)
    | 'A' => some (.place .start, cs)
    | 'z' => some (.place .stop, cs)
    | 'n' => some (.char '\n', cs)
    | 'r' => some (.char '\r', cs)
    | 't' => some (.char '\t', cs)
    | 'f' => some (.char '\x0c', cs)
    | 'v' => some (.char '\x0b', cs)
    | 'a' => some (.char '\x07', cs)
    | 'x' => (code? 2 cs).map fun (c, rest) => (.char c, rest)
    | 'u' => (code? 4 cs).map fun (c, rest) => (.char c, rest)
    | 'U' => (code? 8 cs).map fun (c, rest) => (.char c, rest)
    | c =>
      if isAscii c && !isAsciiLetter c && !isAsciiDigit c && c != '<' && c != '>' then
        some (.char c, cs)
      else none

/-- A named set of ASCII characters. -/
def named? (name : String) : Option CharSet :=
  match name with
  | "alnum" => some .alnum
  | "alpha" => some .letters
  | "ascii" => some (.range '\x00' '\x7f')
  | "blank" => some (.anyOf [.single ' ', .single '\t'])
  | "cntrl" => some (.anyOf [.range '\x00' '\x1f', .single '\x7f'])
  | "digit" => some .asciiDigits
  | "graph" => some (.range '!' '~')
  | "lower" => some .lower
  | "print" => some (.range ' ' '~')
  | "punct" => some .punctuation
  | "space" => some (.anyOf [.single ' ', .range '\t' '\r'])
  | "upper" => some .upper
  | "word" => some .word
  | "xdigit" => some .hex
  | _ => none

/-- A named set after its opening bracket and colon. -/
def namedSet? (cs : List Char) : Option (CharSet × List Char) :=
  let (inverted, cs) := if cs.head? = some '^' then (true, cs.tail) else (false, cs)
  match cs.span (· != ':') with
  | (name, ':' :: ']' :: rest) =>
    (named? (String.ofList name)).map fun set => (set.inverseIf inverted, rest)
  | _ => none

/-- Hyphens at the start of a set, which stand for themselves. -/
def leadingHyphens (cs : List Char) : Bool × List Char :=
  (cs.head? == some '-', cs.dropWhile (· == '-'))

mutual

/-- A set after its opening bracket. -/
def bracketed? (flags : Flags) : (fuel : Nat) → List Char → Option (CharSet × List Char)
  | 0, _ => none
  | fuel + 1, cs => do
    let (inverted, cs) := if cs.head? = some '^' then (true, cs.tail) else (false, cs)
    let (hyphen, cs) := leadingHyphens cs
    let (closing, cs) := if !hyphen ∧ cs.head? = some ']' then (true, cs.tail) else (false, cs)
    let (set, rest) ← members? flags fuel cs
    let set := if hyphen then .union (.single '-') set else set
    let set := if closing then .union (.single ']') set else set
    some ((inCase flags set).inverseIf inverted, rest)

/-- The members of a set up to its closing bracket; sets cannot be intersected or subtracted. -/
def members? (flags : Flags) : (fuel : Nat) → List Char → Option (CharSet × List Char)
  | 0, _ => none
  | fuel + 1, cs => match cs with
    | ']' :: rest => some (.empty, rest)
    | '&' :: '&' :: _ => none
    | '~' :: '~' :: _ => none
    | '-' :: '-' :: _ => none
    | cs => do
      let (first, rest) ← member? flags fuel cs
      match first, rest with
      | .char a, '-' :: more =>
        if more.head? = some ']' ∨ more.head? = some '-' then
          let (set, rest) ← members? flags fuel rest
          some (.union (.single a) set, rest)
        else
          let (last, rest) ← member? flags fuel more
          match last with
          | .char b =>
            if b < a then none
            else
              let (set, rest) ← members? flags fuel rest
              some (.union (.range a b) set, rest)
          | _ => none
      | .char a, rest =>
        let (set, rest) ← members? flags fuel rest
        some (.union (.single a) set, rest)
      | .set inner, rest =>
        let (set, rest) ← members? flags fuel rest
        some (.union inner set, rest)
      | .place _, _ => none

/-- A member of a set. -/
def member? (flags : Flags) : (fuel : Nat) → List Char → Option (Atom × List Char)
  | 0, _ => none
  | fuel + 1, cs => match cs with
    | '[' :: ':' :: inner => match namedSet? inner with
      | some (set, rest) => some (.set set, rest)
      | none => (bracketed? flags fuel (':' :: inner)).map fun (set, rest) => (.set set, rest)
    | '[' :: inner => (bracketed? flags fuel inner).map fun (set, rest) => (.set set, rest)
    | '\\' :: escape => escape? escape
    | c :: rest => some (.char c, rest)
    | [] => none

end

/-! ## Repetition -/

/-- The largest number of times. -/
def maxTimes : Nat := 0xffffffff

/-- A number of times. -/
def times? (cs : List Char) : Option (Nat × List Char) :=
  match cs.span isAsciiDigit with
  | ([], _) => none
  | (digits, rest) =>
    if digitsValue digits ≤ maxTimes then some (digitsValue digits, rest) else none

/-- How often at least, and how much more often at the most, in braces, after the opening one. -/
def braces? (cs : List Char) : Option (Nat × Option Nat × List Char) := do
  let (least, rest) ← times? cs
  match rest with
  | '\x7d' :: rest => some (least, some 0, rest)
  | ',' :: '\x7d' :: rest => some (least, none, rest)
  | ',' :: rest =>
    let (most, rest) ← times? rest
    match rest with
    | '\x7d' :: rest => if least ≤ most then some (least, some (most - least), rest) else none
    | _ => none
  | _ => none

/-- A pattern with the repetitions that follow it. -/
def repetitions? : (fuel : Nat) → Pattern → List Char → Option (Pattern × List Char)
  | 0, _, _ => none
  | fuel + 1, p, cs =>
    let lazily := fun (rest : List Char) => if rest.head? = some '?' then rest.tail else rest
    match cs with
    | '*' :: rest => repetitions? fuel (.repeated p 0 none) (lazily rest)
    | '+' :: rest => repetitions? fuel (.repeated p 1 none) (lazily rest)
    | '?' :: rest => repetitions? fuel (.repeated p 0 (some 1)) (lazily rest)
    | '\x7b' :: rest => do
      let (least, more, rest) ← braces? rest
      repetitions? fuel (.repeated p least more) (lazily rest)
    | cs => some (p, cs)

/-! ## Patterns -/

/-- The pattern of an atom. -/
def ofAtom (flags : Flags) : Atom → Pattern
  | .char c => .one (inCase flags (.single c))
  | .set set => .one set
  | .place kind => .boundary kind

/-- Flags up to the colon or parenthesis after them, which remains. -/
def flags? (value : Bool) (flags : Flags) : List Char → Option (Flags × List Char)
  | [] => none
  | c :: cs =>
    if c = ':' ∨ c = ')' then some (flags, c :: cs)
    else if c = '-' then if value then flags? false flags cs else none
    else (flags.set? value c).bind fun flags => flags? value flags cs

/-- What follows the name of a group, if that is one. -/
def groupName? (cs : List Char) : Option (List Char) :=
  match cs.span fun c => CharSet.word.contains c || c == '.' || c == '[' || c == ']' with
  | (c :: _, '>' :: rest) => if isAsciiLetter c ∨ c = '_' then some rest else none
  | _ => none

mutual

/-- One pattern or another, up to a closing parenthesis or the end, and the flags there. -/
def alternatives? : (fuel : Nat) → Flags → List Char → Option (Pattern × List Char)
  | 0, _, _ => none
  | fuel + 1, flags, cs => do
    let (first, flags, rest) ← sequence? fuel flags cs
    match rest with
    | '|' :: rest =>
      let (second, rest) ← alternatives? fuel flags rest
      some (.either first second, rest)
    | rest => some (first, rest)

/-- One pattern after another, and the flags that hold from there on. -/
def sequence? : (fuel : Nat) → Flags → List Char → Option (Pattern × Flags × List Char)
  | 0, _, _ => none
  | fuel + 1, flags, cs => match cs with
    | [] => some (.nothing, flags, [])
    | '|' :: _ => some (.nothing, flags, cs)
    | ')' :: _ => some (.nothing, flags, cs)
    | '(' :: '?' :: rest => match flags? true flags rest with
      | some (changed, ')' :: rest) => sequence? fuel changed rest
      | _ => parts? fuel flags cs
    | _ => parts? fuel flags cs

/-- `sequence?` where it is not empty. -/
def parts? : (fuel : Nat) → Flags → List Char → Option (Pattern × Flags × List Char)
  | 0, _, _ => none
  | fuel + 1, flags, cs => do
    let (part, rest) ← part? fuel flags cs
    let (part, rest) ← repetitions? (rest.length + 1) part rest
    let (more, flags, rest) ← sequence? fuel flags rest
    some (.both part more, flags, rest)

/-- A part without its repetitions. -/
def part? : (fuel : Nat) → Flags → List Char → Option (Pattern × List Char)
  | 0, _, _ => none
  | fuel + 1, flags, cs => match cs with
    | '(' :: '?' :: 'P' :: '<' :: rest => (groupName? rest).bind (group? fuel flags)
    | '(' :: '?' :: '<' :: rest => (groupName? rest).bind (group? fuel flags)
    | '(' :: '?' :: rest => match flags? true flags rest with
      | some (changed, ':' :: rest) => group? fuel changed rest
      | _ => none
    | '(' :: rest => group? fuel flags rest
    | '[' :: rest => (bracketed? flags (2 * rest.length + 2) rest).map fun (set, rest) =>
      (.one set, rest)
    | '\\' :: rest => (escape? rest).map fun (atom, rest) => (ofAtom flags atom, rest)
    | '.' :: rest => some (.one (.inverse (if flags.dotAll then .empty else .single '\n')), rest)
    | '^' :: rest => some (.boundary (if flags.lines then .lineStart else .start), rest)
    | '$' :: rest => some (.boundary (if flags.lines then .lineStop else .stop), rest)
    | c :: rest =>
      if "*+?\x7b)".toList.contains c then none else some (ofAtom flags (.char c), rest)
    | [] => none

/-- A group up to its closing parenthesis. -/
def group? : (fuel : Nat) → Flags → List Char → Option (Pattern × List Char)
  | 0, _, _ => none
  | fuel + 1, flags, cs => do
    let (inner, rest) ← alternatives? fuel flags cs
    match rest with
    | ')' :: rest => some (inner, rest)
    | _ => none

end

/-- The pattern that a text is. -/
def ofText? (text : String) : Option Pattern :=
  let cs := text.toList
  match alternatives? (6 * cs.length + 6) .usual cs with
  | some (p, []) => some p
  | _ => none

end Pattern

end JsonShape
