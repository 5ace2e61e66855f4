/-!
# Text formats

The formats that a string may be recognised to have, in the order in which they are tried.
-/

set_option autoImplicit false

namespace JsonShape

/-- What a string spells. -/
inductive TextFormat where
  | email
  | uri
  | uuid
  | hostname
  | ipv4
  | ipv6
  | dateTime
  | date
  | time
  | phone
  | country
  | currency
deriving DecidableEq, Repr

namespace TextFormat

/-- Every format, the first to be tried first. -/
def all : List TextFormat :=
  [uuid, email, uri, dateTime, date, time, ipv4, ipv6, phone, hostname, country, currency]

/-- The name of a format. -/
def name : TextFormat → String
  | email => "email"
  | uri => "uri"
  | uuid => "uuid"
  | hostname => "hostname"
  | ipv4 => "ipv4"
  | ipv6 => "ipv6"
  | dateTime => "date-time"
  | date => "date"
  | time => "time"
  | phone => "phone"
  | country => "country"
  | currency => "currency"

/-- The format of a name. -/
def ofName? (name : String) : Option TextFormat :=
  all.find? fun format => format.name == name

/-- The value of the `format` keyword of JSON Schema, for the formats that JSON Schema defines. -/
def schemaName? : TextFormat → Option String
  | phone | country | currency => none
  | format => some format.name

end TextFormat

end JsonShape
