import JsonShape.Json.Token

/-!
# JSON documents as written

A document before it is looked at: members in the order of the text, a key as often as it was
written, and leaves that may denote nothing. `Written.ofTokens?` builds it from the tokens with a
stack of the containers that are open. `Written.json?` is the value, members as written;
`Json.read?` is the value with its members in order.

Values are read up to a nesting of 127 arrays and objects.
-/

set_option autoImplicit false

namespace JsonShape

/-- A document as written; a number or a string (a key too) that denotes nothing is `none`. -/
inductive Written where
  | null
  | bool (value : Bool)
  | number (value : Option Number)
  | string (value : Option String)
  | array (items : List Written)
  | object (members : List (Option String × Written))

namespace Written

/-! ## From tokens -/

/-- A container that is open: what it holds so far, last one first, and the key whose value is
due. -/
inductive Frame where
  | array (items : List Written)
  | object (members : List (Option String × Written)) (key : Option String)

/-- What may come next, inside the containers of a stack (innermost first). -/
inductive Due where
  /-- A value. -/
  | value (stack : List Frame)
  /-- A value or the end of the array that has just been opened. -/
  | firstItem (stack : List Frame)
  /-- A comma or the end of an array. -/
  | afterItem (items : List Written) (stack : List Frame)
  /-- A key or the end of the object that has just been opened. -/
  | firstKey (stack : List Frame)
  /-- A key. -/
  | nextKey (members : List (Option String × Written)) (stack : List Frame)
  /-- The colon after a key. -/
  | colon (members : List (Option String × Written)) (key : Option String) (stack : List Frame)
  /-- A comma or the end of an object. -/
  | afterMember (members : List (Option String × Written)) (stack : List Frame)
  /-- Nothing: the document is complete. -/
  | done (document : Written)

namespace Due

/-- What may come after a value. -/
def after (value : Written) : List Frame → Due
  | [] => .done value
  | .array items :: stack => .afterItem (value :: items) stack
  | .object members key :: stack => .afterMember ((key, value) :: members) stack

/-- A token where a value is due. -/
def onValue (stack : List Frame) : Token → Option Due
  | .null => some (after .null stack)
  | .bool b => some (after (.bool b) stack)
  | .number n => some (after (.number n) stack)
  | .string s => some (after (.string s) stack)
  | .openArray => some (.firstItem stack)
  | .openObject => some (.firstKey stack)
  | _ => none

/-- The next token. -/
def step : Due → Token → Option Due
  | .value stack, t => onValue stack t
  | .firstItem stack, .closeArray => some (after (.array []) stack)
  | .firstItem stack, t => onValue (.array [] :: stack) t
  | .afterItem items stack, .comma => some (.value (.array items :: stack))
  | .afterItem items stack, .closeArray => some (after (.array items.reverse) stack)
  | .firstKey stack, .closeObject => some (after (.object []) stack)
  | .firstKey stack, .string key => some (.colon [] key stack)
  | .nextKey members stack, .string key => some (.colon members key stack)
  | .colon members key stack, .colon => some (.value (.object members key :: stack))
  | .afterMember members stack, .comma => some (.nextKey members stack)
  | .afterMember members stack, .closeObject => some (after (.object members.reverse) stack)
  | _, _ => none

/-- All tokens in turn. -/
def run (due : Due) : List Token → Option Due
  | [] => some due
  | t :: ts => match due.step t with
    | some next => run next ts
    | none => none

end Due

/-- The document that tokens form, if they form exactly one. -/
def ofTokens? (ts : List Token) : Option Written :=
  match (Due.value []).run ts with
  | some (.done document) => some document
  | _ => none

/-- The document that a text is. -/
def ofText? (text : String) : Option Written :=
  (Token.scan text.toList).bind ofTokens?

/-! ## Values -/

mutual

/-- The value of a document, members as written; none if a part denotes nothing or more than `room`
containers nest. -/
def json? (room : Nat) : Written → Option Json
  | null => some .null
  | bool b => some (.bool b)
  | number n => n.map .number
  | string s => s.map .string
  | array items => if room = 0 then none else (jsonItems? (room - 1) items).map .array
  | object members => if room = 0 then none else (jsonMembers? (room - 1) members).map .object

/-- `json?`, for each item. -/
def jsonItems? (room : Nat) : List Written → Option (List Json)
  | [] => some []
  | w :: rest => do
    let v ← json? room w
    let vs ← jsonItems? room rest
    some (v :: vs)

/-- `json?`, for each member. -/
def jsonMembers? (room : Nat) : List (Option String × Written) → Option (List (String × Json))
  | [] => some []
  | (key, w) :: rest => do
    let k ← key
    let v ← json? room w
    let vs ← jsonMembers? room rest
    some ((k, v) :: vs)

end

/-- How many containers may nest in a value. -/
def maxNesting : Nat := 127

end Written

/-- The value that a text denotes. -/
def Json.read? (text : String) : Option Json :=
  ((Written.ofText? text).bind (Written.json? Written.maxNesting)).map Json.canonical

end JsonShape
