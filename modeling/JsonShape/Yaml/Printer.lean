import JsonShape.Yaml.Meaning

/-!
# Writing YAML

A text is written plain where it can be. One that would be taken for something else, or that holds
signs of the notation, stands in single quotes; one of several lines stands as a block; and one that
fits neither of these stands in double quotes, with escapes.

`Yaml.lines` writes a mapping of mappings of scalars, two blanks deeper at each level.
-/

set_option autoImplicit false

namespace JsonShape

namespace Yaml

/-! ## What a text allows -/

/-- Whether a character can be written as it is. -/
def isPrintable (c : Char) : Bool :=
  let n := c.toNat
  n == 0x0a || (0x20 ≤ n && n ≤ 0x7e) || (0xa0 ≤ n && n ≤ 0xd7ff) ||
    (0xe000 ≤ n && n ≤ 0xfffd && n != 0xfeff)

/-- Whether somewhere in a text a character of one kind is followed by one of another. -/
def hasPair (p q : Char → Bool) : List Char → Bool
  | c :: d :: cs => (p c && q d) || hasPair p q (d :: cs)
  | _ => false

/-- Whether characters begin like a mark of a document's start or end. -/
def looksLikeMarker : List Char → Bool
  | '-' :: '-' :: '-' :: _ => true
  | '.' :: '.' :: '.' :: _ => true
  | _ => false

/-- Whether a text begins with a sign of the notation. -/
def beginsWithSign : List Char → Bool
  | [] => false
  | c :: cs =>
    "#,[]\x7b\x7d&*!|>'\"%@`".toList.contains c ||
      ((c == '?' || c == ':' || c == '-') && atGap cs)

/-- Whether a colon before white space stands in a text, or ends it. -/
def hasColon : List Char → Bool
  | [] => false
  | c :: cs => (c == ':' && atGap cs) || hasColon cs

/-- Whether a text can stand without quotes: one line of printable characters, no space at an end,
and nothing that the notation gives a meaning. -/
def canBePlain (cs : List Char) : Bool :=
  cs.all (fun c => isPrintable c && !isBreak c) &&
    cs.head? != some ' ' && cs.getLast? != some ' ' &&
    !beginsWithSign cs && !looksLikeMarker cs && !hasColon cs &&
    !hasPair (fun c => isSpace c || isBreak c) (· == '#') cs

/-- Whether a text can stand in single quotes: printable, no space on either side of a break. -/
def canBeQuoted (cs : List Char) : Bool :=
  cs.all isPrintable && !hasPair (· == ' ') isBreak cs && !hasPair isBreak (· == ' ') cs

/-- Whether a text can stand as a block: printable, no space at the end of a line. -/
def canBeBlock (cs : List Char) : Bool :=
  !cs.isEmpty && cs.all isPrintable && !hasPair (· == ' ') isBreak cs && cs.getLast? != some ' '

/-! ## The styles -/

/-- White space in front of the lines of a scalar after its first. -/
def margin : List Char := List.replicate 4 ' '

/-- A text in lines, with white space in front of every line that is not empty; `fresh` tells
whether a line has just ended. -/
def indented (fresh : Bool) : List Char → List Char
  | [] => []
  | c :: cs =>
    if isBreak c then c :: indented true cs
    else (if fresh then margin else []) ++ c :: indented false cs

/-- A text in single quotes. -/
def inSingleQuotes (cs : List Char) : List Char :=
  let body := indented false (cs.flatMap fun c => if c = '\'' then ['\'', '\''] else [c])
  '\'' :: body ++ (if cs.getLast?.any isBreak then margin else []) ++ ['\'']

/-- A number in upper-case hexadecimal digits, at least so many. -/
def hexadecimal (width n : Nat) : List Char :=
  let digits := (Nat.toDigits 16 n).map fun c =>
    if 'a' ≤ c ∧ c ≤ 'f' then Char.ofNat (c.toNat - 32) else c
  List.replicate (width - digits.length) '0' ++ digits

/-- The letter of the escape of a character that has one. -/
def escapeLetter? (c : Char) : Option Char :=
  if c = '\x00' then some '0'
  else if c = '\x07' then some 'a'
  else if c = '\x08' then some 'b'
  else if c = '\t' then some 't'
  else if c = '\n' then some 'n'
  else if c = '\x0b' then some 'v'
  else if c = '\x0c' then some 'f'
  else if c = '\r' then some 'r'
  else if c = '\x1b' then some 'e'
  else if c = '"' then some '"'
  else if c = '\\' then some '\\'
  else if c = '\u0085' then some 'N'
  else if c = '\u2028' then some 'L'
  else if c = '\u2029' then some 'P'
  else none

/-- A character in double quotes. -/
def escape (c : Char) : List Char :=
  match escapeLetter? c with
  | some letter => ['\\', letter]
  | none =>
    if isPrintable c then [c]
    else if c.toNat ≤ 0xff then '\\' :: 'x' :: hexadecimal 2 c.toNat
    else if c.toNat ≤ 0xffff then '\\' :: 'u' :: hexadecimal 4 c.toNat
    else '\\' :: 'U' :: hexadecimal 8 c.toNat

/-- A text in double quotes. -/
def inDoubleQuotes (cs : List Char) : List Char := '"' :: cs.flatMap escape ++ ['"']

/-- What the header of a block says about the breaks at its end. -/
def chompSign (cs : List Char) : List Char :=
  match cs.reverse with
  | [] => ['-']
  | [c] => if isBreak c then ['+'] else ['-']
  | c :: d :: _ => if isBreak c then if isBreak d then ['+'] else [] else ['-']

/-- A text as a block, up to its last line's end. -/
def asBlock (cs : List Char) : List Char :=
  '|' :: (if cs.head?.any fun c => c == ' ' || isBreak c then ['2'] else []) ++ chompSign cs ++
    '\n' :: indented true cs ++ (if cs.getLast?.any isBreak then [] else ['\n'])

/-- A text in single quotes, or in double quotes where it has to be. -/
def inQuotes (cs : List Char) : List Char :=
  if canBeQuoted cs then inSingleQuotes cs else inDoubleQuotes cs

/-- A text as the value of an entry, up to the end of its last line. -/
def textValue (text : String) : List Char :=
  let cs := text.toList
  if isAmbiguous text then inQuotes cs ++ ['\n']
  else if cs.contains '\n' then if canBeBlock cs then asBlock cs else inDoubleQuotes cs ++ ['\n']
  else if canBePlain cs then cs ++ ['\n']
  else inQuotes cs ++ ['\n']

end Yaml

end JsonShape
