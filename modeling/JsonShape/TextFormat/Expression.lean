import JsonShape.Pattern.Reader
import JsonShape.TextFormat

/-!
# Expressions of formats

What the texts of a format look like, in the notation of patterns, for the formats that are described
so. Expressions know neither the calendar nor how long a host name may be.
-/

set_option autoImplicit false

namespace JsonShape

namespace TextFormat

/-- A label of a host name, as an expression. -/
def labelExpression : String := "[A-Za-z0-9](?:[A-Za-z0-9-]\x7b0,61\x7d[A-Za-z0-9])?"

/-- The expression of a format. -/
def expression? : TextFormat → Option String
  | uuid => some <| "^[0-9a-fA-F]\x7b8\x7d-[0-9a-fA-F]\x7b4\x7d-[0-9a-fA-F]\x7b4\x7d" ++
      "-[0-9a-fA-F]\x7b4\x7d-[0-9a-fA-F]\x7b12\x7d$"
  | email => some <| "^[A-Za-z0-9.!#$%&'*+/=?^_`\x7b|\x7d~-]+@" ++ labelExpression ++
      "(?:\\." ++ labelExpression ++ ")+$"
  | dateTime => some <| "^(\\d\x7b4\x7d-\\d\x7b2\x7d-\\d\x7b2\x7d)[Tt ]" ++
      "(\\d\x7b2\x7d:\\d\x7b2\x7d:\\d\x7b2\x7d)(?:\\.\\d+)?(?:[Zz]|[+-]\\d\x7b2\x7d:?\\d\x7b2\x7d)?$"
  | date => some "^\\d\x7b4\x7d-\\d\x7b2\x7d-\\d\x7b2\x7d$"
  | time => some <| "^(\\d\x7b2\x7d:\\d\x7b2\x7d:\\d\x7b2\x7d)(?:\\.\\d+)?" ++
      "(?:[Zz]|[+-]\\d\x7b2\x7d:?\\d\x7b2\x7d)?$"
  | phone => some "^\\+[1-9]\\d\x7b6,14\x7d$"
  | hostname => some <| "^(?:" ++ labelExpression ++ "\\.)+[A-Za-z]\x7b2,63\x7d$"
  | uri | ipv4 | ipv6 | country | currency => none

/-- Whether a text looks like the texts of a format. -/
def fitsExpression (format : TextFormat) (s : String) : Bool :=
  (format.expression?.bind Pattern.ofText?).any fun p => p.isFoundIn s

end TextFormat

end JsonShape
