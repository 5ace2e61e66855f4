import JsonShape.Text.Ascii
import JsonShape.TextFormat.Address
import JsonShape.Uri.Domain

/-!
# Hosts

The host of a URI. Under the special schemes (`http`, `ftp` and their like, and `file`) it is an
IPv6 address in brackets, an IPv4 address in any of its old spellings, or a domain, percent-encoded
or not. Under any other scheme it is an IPv6 address in brackets or a name that is taken as it is.
-/

set_option autoImplicit false

namespace JsonShape

namespace Uri

/-- A host; a domain in its own script. -/
inductive Host where
  | domain (name : List Char)
  | ipv4
  | ipv6
  | opaqueName
deriving DecidableEq

/-! ## IPv4 addresses in all their spellings -/

/-- A part of an IPv4 address: decimal, octal after `0`, hexadecimal after `0x`. -/
def ipv4Number? : List Char → Option Nat
  | [] => none
  | '0' :: 'x' :: digits => radixValue? 16 digits
  | '0' :: 'X' :: digits => radixValue? 16 digits
  | '0' :: d :: digits => radixValue? 8 (d :: digits)
  | digits => radixValue? 10 digits

/-- The parts of a domain; a point at its end adds none. -/
def domainParts (name : List Char) : List (List Char) :=
  match (fields '.' name).reverse with
  | [] :: part :: parts => (part :: parts).reverse
  | parts => parts.reverse

/-- Whether the last part of a domain is a number, so that the whole must be an IPv4 address. -/
def endsInNumber (name : List Char) : Bool :=
  match (domainParts name).getLast? with
  | some part => (!part.isEmpty && part.all isAsciiDigit) || (ipv4Number? part).isSome
  | none => false

/-- Whether a domain is an IPv4 address: up to four numbers, of which the last fills the bytes that
the others leave. -/
def isIpv4Domain (name : List Char) : Bool :=
  match (domainParts name).mapM ipv4Number? with
  | some numbers =>
    match numbers.reverse with
    | last :: others => others.length ≤ 3 && others.all (· ≤ 255) &&
        last < 1 <<< (8 * (4 - others.length))
    | [] => false
  | none => false

/-! ## Percent-encoding -/

/-- Bytes with every `%` and two hexadecimal digits replaced by the byte that they spell. -/
def percentDecodeBytes : List UInt8 → List UInt8
  | b :: high :: low :: rest =>
    if b.toNat = 0x25 then
      match hexDigit? (Char.ofNat high.toNat), hexDigit? (Char.ofNat low.toNat) with
      | some h, some l => (16 * h + l).toUInt8 :: percentDecodeBytes rest
      | _, _ => b :: percentDecodeBytes (high :: low :: rest)
    else b :: percentDecodeBytes (high :: low :: rest)
  | short => short

/-- Characters with their percent-encoded bytes decoded; none if that is no text. -/
def percentDecode? (cs : List Char) : Option (List Char) :=
  if cs.contains '%' then
    let bytes := percentDecodeBytes (String.ofList cs).toUTF8.toList
    (String.fromUTF8? ⟨bytes.toArray⟩).map String.toList
  else some cs

/-! ## Hosts -/

/-- The address in brackets that characters are, if they start with a bracket. -/
def bracketed (cs : List Char) : Option Host :=
  if cs.getLast? = some ']' ∧ TextFormat.isIpv6Chars cs.dropLast then some .ipv6 else none

/-- The host under a special scheme. -/
def specialHost? : List Char → Option Host
  | '[' :: cs => bracketed cs
  | cs => do
    let decoded ← percentDecode? cs
    let name ← domain? decoded
    if name.isEmpty then none
    else if endsInNumber name then if isIpv4Domain name then some .ipv4 else none
    else some (.domain name)

/-- Whether a character may stand in the name of a host under a scheme that is not special. -/
def inOpaqueName (c : Char) : Bool :=
  c != '\x00' && !("\t\n\r #/:<>?@[\\]^|".toList.contains c)

/-- The host under a scheme that is not special. -/
def opaqueHost? : List Char → Option Host
  | '[' :: cs => bracketed cs
  | cs => if !cs.isEmpty && cs.all inOpaqueName then some .opaqueName else none

end Uri

end JsonShape
