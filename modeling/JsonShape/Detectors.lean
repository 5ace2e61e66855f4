import JsonShape.TextFormat
import JsonShape.TextFormat.Calendar
import JsonShape.TextFormat.Code
import JsonShape.TextFormat.Identifier
import JsonShape.TextFormat.Label
import JsonShape.Uri

/-!
# Format detection

`TextFormat.recognises` tells whether a string has a format. `Detectors` are the formats that are
looked for, in nine groups, and `Detectors.detect` gives the first of them, in the order of
`TextFormat.all`, that a string has.
-/

set_option autoImplicit false

namespace JsonShape

/-- Whether a string has a format. -/
def TextFormat.recognises : TextFormat → String → Bool
  | uuid => isUuid
  | email => isEmail
  | uri => isUri
  | dateTime => isDateTime
  | date => isDate
  | time => isTime
  | ipv4 => isIpv4
  | ipv6 => isIpv6
  | phone => isPhone
  | hostname => isHostname
  | country => isCountry
  | currency => isCurrency

/-- Which formats are looked for. -/
structure Detectors where
  /-- Dates, times and date-times. -/
  datetime : Bool
  uri : Bool
  email : Bool
  uuid : Bool
  hostname : Bool
  /-- Both kinds of addresses. -/
  ip : Bool
  phone : Bool
  country : Bool
  currency : Bool
deriving DecidableEq, Repr

namespace Detectors

/-- Every format. -/
def all : Detectors := ⟨true, true, true, true, true, true, true, true, true⟩

/-- No format. -/
def none : Detectors := ⟨false, false, false, false, false, false, false, false, false⟩

instance : Inhabited Detectors := ⟨all⟩

/-- Whether a format is looked for. -/
def enabled (d : Detectors) : TextFormat → Bool
  | .dateTime | .date | .time => d.datetime
  | .uri => d.uri
  | .email => d.email
  | .uuid => d.uuid
  | .hostname => d.hostname
  | .ipv4 | .ipv6 => d.ip
  | .phone => d.phone
  | .country => d.country
  | .currency => d.currency

/-- The format of a string among those that are looked for. -/
def detect (d : Detectors) (s : String) : Option TextFormat :=
  TextFormat.all.find? fun format => d.enabled format && format.recognises s

end Detectors

end JsonShape
