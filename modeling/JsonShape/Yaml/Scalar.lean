import JsonShape.Text.Ascii
import JsonShape.Yaml

/-!
# Scalars of YAML

Reading a scalar in each of its styles: plain, in quotes, and as a block of lines. Each function
gives the characters that the scalar stands for and what remains after it.
-/

set_option autoImplicit false

namespace JsonShape

namespace Yaml

/-! ## Plain scalars -/

/-- Whether a character belongs to the notation of sequences and mappings in brackets. -/
def isFlowMark (c : Char) : Bool :=
  c == ',' || c == '[' || c == ']' || c == '\x7b' || c == '\x7d'

/-- Whether a scalar may begin without quotes here. -/
def startsPlain (flow : Bool) : List Char → Bool
  | [] => false
  | '-' :: cs => !(atGap cs)
  | '?' :: cs => !flow && !(atGap cs)
  | ':' :: cs => !flow && !(atGap cs)
  | c :: _ => !isSpace c && !isBreak c && !isFlowMark c && !("#&*!|>'\"%@`".toList.contains c)

/-- The part of a plain scalar in one line, from a place where `blank` tells whether a space came
before: up to a colon before white space, a comment, or in brackets a mark of theirs. -/
def plainLine (flow blank : Bool) : List Char → Option (List Char × List Char)
  | [] => some ([], [])
  | c :: cs =>
    if isBreak c || (c == '#' && blank) || (c == ':' && atGap cs) || (flow && isFlowMark c) then
      some ([], c :: cs)
    else if flow && c == ':' && cs.head?.any (fun d => isFlowMark d || d == '?') then none
    else (plainLine flow (isSpace c) cs).map fun (text, rest) => (c :: text, rest)

/-- Characters without the spaces and tabs at their end. -/
def trimEnd (cs : List Char) : List Char := (cs.reverse.dropWhile isSpace).reverse

/-- The breaks and blanks before the next line with anything in it: the breaks, the column at which
that line begins, and that line. A tab counts only from the column `indent` on. -/
def nextLine (indent column : Nat) : List Char → List Char × Nat × List Char
  | [] => ([], column, [])
  | c :: cs =>
    if isBreak c then
      let (breaks, place) := nextLine indent 0 cs
      (c :: breaks, place)
    else if c = ' ' ∨ (c = '\t' ∧ indent ≤ column) then nextLine indent (column + 1) cs
    else ([], column, c :: cs)

/-- Whether a plain scalar goes on in a line that begins at a column. -/
def continues (flow : Bool) (indent column : Nat) (line : List Char) : Bool :=
  !line.isEmpty && line.head? != some '#' && (flow || indent ≤ column) &&
    !(column == 0 && atMarker line)

/-- A plain scalar of one or more lines, those after the first indented. -/
def plain (flow : Bool) (indent : Nat) : (fuel : Nat) → List Char → Option (List Char × List Char)
  | 0, _ => none
  | fuel + 1, cs => do
    let (line, rest) ← plainLine flow true cs
    match rest with
    | [] => some (trimEnd line, [])
    | first :: after =>
      let (breaks, column, next) := nextLine indent 0 after
      if isBreak first && continues flow indent column next then
        match ← plain flow indent fuel next with
        | ([], _) => some (trimEnd line, rest)
        | (more, rest) => some (trimEnd line ++ fold first breaks ++ more, rest)
      else some (trimEnd line, rest)

/-! ## Quoted scalars -/

/-- White space in a quoted scalar that is not yet known to stay. -/
inductive Gap where
  /-- Blanks, last one first. -/
  | blanks (read : List Char)
  /-- The first break, unless it is escaped, and those after it, last one first. -/
  | broken (first : Option Char) (more : List Char)

namespace Gap

/-- No white space. -/
def none : Gap := .blanks []

/-- What white space stands for. -/
def text : Gap → List Char
  | blanks read => read.reverse
  | broken (some first) more => fold first more.reverse
  | broken Option.none more => more.reverse

/-- White space with one more character, a blank. -/
def space (c : Char) : Gap → Gap
  | blanks read => blanks (c :: read)
  | gap => gap

/-- White space with one more character, a break. -/
def line (c : Char) : Gap → Gap
  | blanks _ => broken (some c) []
  | broken first more => broken first (c :: more)

end Gap

/-- What a one-letter escape stands for. -/
def escaped? : Char → Option Char
  | '0' => some '\x00'
  | 'a' => some '\x07'
  | 'b' => some '\x08'
  | 't' => some '\t'
  | '\t' => some '\t'
  | 'n' => some '\n'
  | 'v' => some '\x0b'
  | 'f' => some '\x0c'
  | 'r' => some '\r'
  | 'e' => some '\x1b'
  | ' ' => some ' '
  | '"' => some '"'
  | '/' => some '/'
  | '\\' => some '\\'
  | 'N' => some '\u0085'
  | '_' => some '\u00a0'
  | 'L' => some '\u2028'
  | 'P' => some '\u2029'
  | _ => none

/-- The character of a code point that is written in hexadecimal digits. -/
def codePoint? (digits : List Char) : Option Char := do
  let n ← radixValue? 16 digits
  if (Char.ofNat n).toNat = n then some (Char.ofNat n) else none

/-- Characters put in front of a scalar that has been read. -/
def before (front : List Char) : Option (List Char × List Char) → Option (List Char × List Char)
  | some (text, rest) => some (front ++ text, rest)
  | none => none

/-- A scalar in double quotes after its opening quote. -/
def doubleQuoted (gap : Gap) : List Char → Option (List Char × List Char)
  | [] => none
  | '\\' :: 'x' :: a :: b :: cs =>
    (codePoint? [a, b]).bind fun c => before (gap.text ++ [c]) (doubleQuoted .none cs)
  | '\\' :: 'u' :: a :: b :: c :: d :: cs =>
    (codePoint? [a, b, c, d]).bind fun c => before (gap.text ++ [c]) (doubleQuoted .none cs)
  | '\\' :: 'U' :: a :: b :: c :: d :: e :: f :: g :: h :: cs =>
    (codePoint? [a, b, c, d, e, f, g, h]).bind fun c =>
      before (gap.text ++ [c]) (doubleQuoted .none cs)
  | '\\' :: c :: cs =>
    if isBreak c then
      if atMarker cs then none else before gap.text (doubleQuoted (.broken none []) cs)
    else (escaped? c).bind fun c => before (gap.text ++ [c]) (doubleQuoted .none cs)
  | c :: cs =>
    if c = '"' then some (gap.text, cs)
    else if isSpace c then doubleQuoted (gap.space c) cs
    else if isBreak c then if atMarker cs then none else doubleQuoted (gap.line c) cs
    else before (gap.text ++ [c]) (doubleQuoted .none cs)

/-- A scalar in single quotes after its opening quote. -/
def singleQuoted (gap : Gap) : List Char → Option (List Char × List Char)
  | [] => none
  | '\'' :: '\'' :: cs => before (gap.text ++ ['\'']) (singleQuoted .none cs)
  | c :: cs =>
    if c = '\'' then some (gap.text, cs)
    else if isSpace c then singleQuoted (gap.space c) cs
    else if isBreak c then if atMarker cs then none else singleQuoted (gap.line c) cs
    else before (gap.text ++ [c]) (singleQuoted .none cs)

/-- A scalar in quotes of either kind. -/
def quoted : List Char → Option (List Char × List Char)
  | '"' :: cs => doubleQuoted .none cs
  | '\'' :: cs => singleQuoted .none cs
  | _ => none

/-! ## Blocks of lines -/

/-- What becomes of the breaks at the end of a block. -/
inductive Chomp where
  | strip
  | clip
  | keep
deriving DecidableEq, Repr

/-- The header of a block. -/
structure BlockHeader where
  literal : Bool
  chomp : Chomp
  /-- How much deeper than what surrounds it the block is; if not given, its first line decides. -/
  indent : Option Nat

/-- The sign of a `Chomp`. -/
def chomp? : Char → Option Chomp
  | '-' => some .strip
  | '+' => some .keep
  | _ => none

/-- The depth that a digit gives. -/
def depth? (c : Char) : Option Nat :=
  if isAsciiDigit c && c != '0' then some (digitValue c) else none

/-- The signs of a header in either order. -/
def headerSigns (literal : Bool) : List Char → BlockHeader × List Char
  | a :: b :: cs => match chomp? a, depth? b, depth? a, chomp? b with
    | some chomp, some indent, _, _ => (⟨literal, chomp, some indent⟩, cs)
    | _, _, some indent, some chomp => (⟨literal, chomp, some indent⟩, cs)
    | some chomp, none, _, _ => (⟨literal, chomp, none⟩, b :: cs)
    | _, _, some indent, none => (⟨literal, .clip, some indent⟩, b :: cs)
    | none, _, none, _ => (⟨literal, .clip, none⟩, a :: b :: cs)
  | [a] => match chomp? a, depth? a with
    | some chomp, _ => (⟨literal, chomp, none⟩, [])
    | _, some indent => (⟨literal, .clip, some indent⟩, [])
    | none, none => (⟨literal, .clip, none⟩, [a])
  | [] => (⟨literal, .clip, none⟩, [])

/-- The rest of a header's line, which may hold a comment; gives the next line. -/
def endOfHeader? (cs : List Char) : Option (List Char) :=
  match cs.dropWhile isSpace with
  | [] => some []
  | c :: rest =>
    if isBreak c then some rest
    else if c = '#' then
      match rest.dropWhile fun d => !isBreak d with
      | [] => some []
      | _ :: next => some next
    else none

/-- The header of a block and the lines after it. -/
def header? : List Char → Option (BlockHeader × List Char)
  | '|' :: cs => match headerSigns true cs with
    | (header, rest) => (endOfHeader? rest).map fun lines => (header, lines)
  | '>' :: cs => match headerSigns false cs with
    | (header, rest) => (endOfHeader? rest).map fun lines => (header, lines)
  | _ => none

/-- The greatest column that the blank lines at the start of a block, and the first line after them,
begin at; none if a tab stands there. -/
def blockColumn? (column greatest : Nat) : List Char → Option Nat
  | [] => some (max column greatest)
  | c :: cs =>
    if c = ' ' then blockColumn? (column + 1) greatest cs
    else if isBreak c then blockColumn? 0 (max column greatest) cs
    else if c = '\t' then none
    else some (max column greatest)

/-- Characters without up to `n` spaces in front, and how many of the `n` were not there. -/
def dropSpaces : (n : Nat) → List Char → List Char × Nat
  | n + 1, ' ' :: cs => dropSpaces n cs
  | n, cs => (cs, n)

/-- The lines of a block of a given indentation, each with the break that ends it, and what follows;
none if a tab stands in the indentation. -/
def linesOfBlock? (indent : Nat) : (fuel : Nat) → List Char →
    Option (List (List Char × Option Char) × List Char)
  | 0, _ => none
  | fuel + 1, cs =>
    match dropSpaces indent cs with
    | ([], _) => some ([], [])
    | (c :: rest, missing) =>
      if isBreak c then
        (linesOfBlock? indent fuel rest).map fun (lines, after) => (([], some c) :: lines, after)
      else if missing = 0 then
        match (c :: rest).span fun d => !isBreak d with
        | (text, []) => some ([(text, none)], [])
        | (text, b :: rest) =>
          (linesOfBlock? indent fuel rest).map fun (lines, after) =>
            ((text, some b) :: lines, after)
      else if c = '\t' then none
      else some ([], cs)

/-- A line of a block that is not blank: what it holds, the break that ends it, and those of the
blank lines after it. -/
structure BlockLine where
  text : List Char
  ending : List Char
  blanks : List Char

/-- The breaks of the blank lines in front, and the lines that are not blank. -/
def blockLines : List (List Char × Option Char) → List Char × List BlockLine
  | [] => ([], [])
  | (text, ending) :: rest =>
    let (blanks, lines) := blockLines rest
    if text.isEmpty then (ending.toList ++ blanks, lines)
    else ([], ⟨text, ending.toList, blanks⟩ :: lines)

/-- What the breaks after a line stand for, before a line that holds `next`. -/
def BlockLine.gap (literal : Bool) (line : BlockLine) (next : List Char) : List Char :=
  if literal || line.text.head?.any isSpace || next.head?.any isSpace then
    line.ending ++ line.blanks
  else match line.ending with
    | [first] => fold first line.blanks
    | _ => line.blanks

/-- The text of lines, up to the breaks at its end. -/
def joinLines (literal : Bool) : List BlockLine → List Char
  | [] => []
  | [line] => line.text
  | line :: next :: rest =>
    line.text ++ line.gap literal next.text ++ joinLines literal (next :: rest)

/-- The breaks at the end of a block. -/
def Chomp.ending (blanks : List Char) (last : Option BlockLine) : Chomp → List Char
  | strip => []
  | clip => (last.map BlockLine.ending).getD []
  | keep => match last with
    | some line => line.ending ++ line.blanks
    | none => blanks

/-- A block scalar inside something at the column `outer`, from its header on. What remains begins
with the end of the block's last line. -/
def block (outer : Int) (cs : List Char) : Option (List Char × List Char) := do
  let (header, lines) ← header? cs
  let indent ← match header.indent with
    | some depth => some ((max outer 0).toNat + depth)
    | none => (blockColumn? 0 0 lines).map fun column => max column (max (outer + 1).toNat 1)
  let (raw, rest) ← linesOfBlock? indent (lines.length + 1) lines
  let (blanks, lines) := blockLines raw
  let front := if lines.isEmpty then [] else blanks
  some (front ++ joinLines header.literal lines ++ header.chomp.ending blanks lines.getLast?,
    if rest.isEmpty then [] else '\n' :: rest)

end Yaml

end JsonShape
