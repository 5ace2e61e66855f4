import JsonShape.Json.Numeral
import JsonShape.Text.Ascii

/-!
# Tokens of JSON text

`Token.scan` cuts a text into tokens, one character at a time: `Scan` holds the token that has begun
and `Scan.step` takes the next character. A numeral out of range and a string with half of a
surrogate pair are tokens all the same, without a value, so that a part of a document that nobody
looks at need not denote anything.
-/

set_option autoImplicit false

namespace JsonShape

/-- A token; a number or a string carries its value, if it denotes one. -/
inductive Token where
  | openArray
  | closeArray
  | openObject
  | closeObject
  | colon
  | comma
  | null
  | bool (value : Bool)
  | number (value : Option Number)
  | string (value : Option String)

namespace Token

/-! ## Strings -/

/-- Where the reading of a string stands: between characters, after a backslash, or with so many
digits of a `\u` escape still to come. -/
inductive Escape where
  | none
  | backslash
  | digits (left value : Nat)

/-- The part of a string that has been read. -/
structure Quoted where
  /-- The characters, last one first. -/
  read : List Char
  /-- Whether all of it denotes characters. -/
  sound : Bool
  /-- The first half of a surrogate pair, if it was read last. -/
  high : Option Nat
  escape : Escape

namespace Quoted

/-- A string of which only the opening quote has been read. -/
def start : Quoted := ⟨[], true, Option.none, .none⟩

/-- A character read; half a surrogate pair before it stays alone. -/
def push (q : Quoted) (c : Char) : Quoted :=
  ⟨c :: q.read, q.sound && q.high.isNone, Option.none, .none⟩

/-- The sixteen bits of a `\u` escape read: a character, or half of one. -/
def pushUnit (q : Quoted) (value : Nat) : Quoted :=
  if 0xDC00 ≤ value ∧ value ≤ 0xDFFF then
    match q.high with
    | some high =>
      ⟨Char.ofNat (0x10000 + (high - 0xD800) * 0x400 + (value - 0xDC00)) :: q.read, q.sound,
        Option.none, .none⟩
    | Option.none => ⟨q.read, false, Option.none, .none⟩
  else if 0xD800 ≤ value ∧ value ≤ 0xDBFF then
    ⟨q.read, q.sound && q.high.isNone, some value, .none⟩
  else q.push (Char.ofNat value)

/-- The string at its closing quote. -/
def value? (q : Quoted) : Option String :=
  if q.sound && q.high.isNone then some (String.ofList q.read.reverse) else Option.none

/-- What a one-letter escape stands for. -/
def escaped? : Char → Option Char
  | '"' => some '"'
  | '\\' => some '\\'
  | '/' => some '/'
  | 'b' => some '\x08'
  | 'f' => some '\x0c'
  | 'n' => some '\n'
  | 'r' => some '\r'
  | 't' => some '\t'
  | _ => Option.none

end Quoted

/-! ## Scanning -/

/-- The token that has begun, if any. -/
inductive Open where
  | between
  | quoted (string : Quoted)
  /-- The characters of a numeral or of a word, last one first. -/
  | numeral (read : List Char)
  | word (read : List Char)

/-- A scan: the tokens that are complete, last one first, and the one that has begun. -/
structure Scan where
  tokens : List Token
  current : Open

/-- Whether a character can stand in a numeral. -/
def inNumeral (c : Char) : Bool :=
  isAsciiDigit c || c == '+' || c == '-' || c == '.' || c == 'e' || c == 'E'

/-- Whether a character can stand in a word. -/
def inWord (c : Char) : Bool := 'a' ≤ c && c ≤ 'z'

/-- The token that a word is. -/
def ofWord? (cs : List Char) : Option Token :=
  if cs = ['n', 'u', 'l', 'l'] then some null
  else if cs = ['t', 'r', 'u', 'e'] then some (bool true)
  else if cs = ['f', 'a', 'l', 's', 'e'] then some (bool false)
  else none

/-- The token that a numeral is. -/
def ofNumeral? (cs : List Char) : Option Token :=
  (Numeral.ofChars? cs).map fun numeral => number numeral.number?

namespace Scan

/-- The next character where no token has begun. -/
def begin (tokens : List Token) (c : Char) : Option Scan :=
  if c = ' ' ∨ c = '\t' ∨ c = '\n' ∨ c = '\r' then some ⟨tokens, .between⟩
  else if c = '[' then some ⟨openArray :: tokens, .between⟩
  else if c = ']' then some ⟨closeArray :: tokens, .between⟩
  else if c = '\x7b' then some ⟨openObject :: tokens, .between⟩
  else if c = '\x7d' then some ⟨closeObject :: tokens, .between⟩
  else if c = ':' then some ⟨colon :: tokens, .between⟩
  else if c = ',' then some ⟨comma :: tokens, .between⟩
  else if c = '"' then some ⟨tokens, .quoted .start⟩
  else if isAsciiDigit c || c == '-' then some ⟨tokens, .numeral [c]⟩
  else if inWord c then some ⟨tokens, .word [c]⟩
  else none

/-- The next character of a string. -/
def inString (tokens : List Token) (q : Quoted) (c : Char) : Option Scan :=
  match q.escape with
  | .none =>
    if c = '"' then some ⟨string q.value? :: tokens, .between⟩
    else if c = '\\' then some ⟨tokens, .quoted { q with escape := .backslash }⟩
    else if c.toNat < 0x20 then none
    else some ⟨tokens, .quoted (q.push c)⟩
  | .backslash =>
    if c = 'u' then some ⟨tokens, .quoted { q with escape := .digits 4 0 }⟩
    else (Quoted.escaped? c).map fun e => ⟨tokens, .quoted (q.push e)⟩
  | .digits left value => (hexDigit? c).map fun d =>
    if left ≤ 1 then ⟨tokens, .quoted (q.pushUnit (16 * value + d))⟩
    else ⟨tokens, .quoted { q with escape := .digits (left - 1) (16 * value + d) }⟩

/-- The token that has begun, taken to be complete; an open string is not. -/
def close (s : Scan) : Option (List Token) :=
  match s.current with
  | .between => some s.tokens
  | .quoted _ => none
  | .numeral read => (ofNumeral? read.reverse).map (· :: s.tokens)
  | .word read => (ofWord? read.reverse).map (· :: s.tokens)

/-- The next character. -/
def step (s : Scan) (c : Char) : Option Scan :=
  match s.current with
  | .between => begin s.tokens c
  | .quoted q => inString s.tokens q c
  | .numeral read =>
    if inNumeral c then some ⟨s.tokens, .numeral (c :: read)⟩
    else s.close.bind fun tokens => begin tokens c
  | .word read =>
    if inWord c then some ⟨s.tokens, .word (c :: read)⟩
    else s.close.bind fun tokens => begin tokens c

/-- All characters in turn. -/
def run (s : Scan) : List Char → Option Scan
  | [] => some s
  | c :: cs => match s.step c with
    | some next => run next cs
    | none => none

end Scan

/-- The tokens of a text; none if some part of it is no token. -/
def scan (cs : List Char) : Option (List Token) :=
  ((Scan.run ⟨[], .between⟩ cs).bind Scan.close).map List.reverse

end Token

end JsonShape
