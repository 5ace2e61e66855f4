import JsonShape.Text.Ascii
import JsonShape.Text.Blank
import JsonShape.Uri.Host

/-!
# URIs with a host

Whether a text is an absolute URI that names a host, after the rules that browsers follow: control
characters at the ends do not count, under a special scheme any number of slashes and backslashes
introduces the host, and under any other one exactly `//` does.
-/

set_option autoImplicit false

namespace JsonShape

namespace Uri

/-! ## Scheme -/

/-- How the rest of a URI is read, as its scheme decides. -/
inductive SchemeKind where
  | file
  | special
  | other
deriving DecidableEq

/-- Whether a character may stand in a scheme after its first letter. -/
def inScheme (c : Char) : Bool :=
  isAsciiLetter c || isAsciiDigit c || c == '+' || c == '-' || c == '.'

/-- The kind of a scheme, given in lower case. -/
def schemeKind (scheme : List Char) : SchemeKind :=
  if scheme = "file".toList then .file
  else if ["http", "https", "ws", "wss", "ftp"].any (fun s => s.toList = scheme) then .special
  else .other

/-- The kind of a URI's scheme, and what follows its colon. -/
def scheme? : List Char → Option (SchemeKind × List Char)
  | c :: cs =>
    if isAsciiLetter c then
      match cs.span inScheme with
      | (more, ':' :: rest) => some (schemeKind ((c :: more).map lowerAscii), rest)
      | _ => none
    else none
  | [] => none

/-! ## Authority -/

/-- Whether a character ends the authority of a URI. -/
def endsAuthority (special : Bool) (c : Char) : Bool :=
  c == '/' || c == '?' || c == '#' || (special && c == '\\')

/-- What follows the last `@`, or all if there is none. -/
def afterUser (authority : List Char) : List Char :=
  (authority.reverse.takeWhile (· != '@')).reverse

/-- An authority without user cut before the colon of its port; colons in brackets do not count. -/
def cutPort (brackets : Bool) : List Char → List Char × List Char
  | [] => ([], [])
  | c :: cs =>
    if c = ':' ∧ !brackets then ([], c :: cs)
    else
      let (host, port) := cutPort (c == '[' || (brackets && c != ']')) cs
      (c :: host, port)

/-- Whether characters are a port after its colon, or nothing: up to 65535, maybe without digits,
and up to a backslash. -/
def isPort : List Char → Bool
  | [] => true
  | _ :: cs =>
    match cs.span isAsciiDigit with
    | (digits, rest) => digitsValue digits ≤ 65535 && (rest.isEmpty || rest.head? == some '\\')

/-- Whether an authority, up to the end of the URI, names a host. -/
def hasAuthority (special : Bool) (cs : List Char) : Bool :=
  match cutPort false (afterUser (cs.takeWhile fun c => !endsAuthority special c)) with
  | (host, port) =>
    !host.isEmpty && isPort port &&
      (if special then specialHost? host else opaqueHost? host).isSome

/-! ## Files -/

/-- Whether a character separates the segments of a file's path. -/
def isSlash (c : Char) : Bool := c == '/' || c == '\\'

/-- Whether characters are the name of a Windows drive. -/
def isDrive : List Char → Bool
  | [letter, colon] => isAsciiLetter letter && (colon == ':' || colon == '|')
  | _ => false

/-- Whether a path names a Windows drive; then the host does not count. -/
def hasDrive (path : List Char) : Bool :=
  (fields '/' ((path.takeWhile fun c => c != '?' && c != '#').map fun c =>
    if c = '\\' then '/' else c)).any isDrive

/-- Whether what follows `file:` names a host, one that is not this computer. -/
def hasFileHost : List Char → Bool
  | a :: b :: cs =>
    isSlash a && isSlash b &&
      match cs.span fun c => !endsAuthority true c with
      | (host, path) =>
        !host.isEmpty && !isDrive host && !hasDrive path &&
          match specialHost? host with
          | some found => found != .domain "localhost".toList
          | none => false
  | _ => false

/-! ## URIs -/

/-- A text without the control characters and blanks at its ends. -/
def trimControls (cs : List Char) : List Char :=
  ((cs.dropWhile (· ≤ ' ')).reverse.dropWhile (· ≤ ' ')).reverse

/-- Whether characters are an absolute URI that names a host. -/
def namesHost (cs : List Char) : Bool :=
  match scheme? (trimControls cs) with
  | some (.file, rest) => hasFileHost rest
  | some (.special, rest) => hasAuthority true (rest.dropWhile isSlash)
  | some (.other, '/' :: '/' :: rest) => hasAuthority false rest
  | _ => false

end Uri

namespace TextFormat

/-- Whether a text is a URI: it has no white space and names a host. -/
def isUri (s : String) : Bool :=
  !(s.toList.any isBlank) && Uri.namesHost s.toList

end TextFormat

end JsonShape
