import JsonShape.Text.Ascii
import JsonShape.Yaml.Scalar

/-!
# Reading YAML

`Yaml.ofText?` reads a text of one document. Depth is told by columns: what belongs to an entry of a
mapping or sequence begins further right than that entry, and entries of one mapping or sequence
begin in one column. In brackets columns do not count.

Each function here reads one part at the start of the remaining characters and gives it with what
remains, which has blanks and comments still in front.
-/

set_option autoImplicit false

namespace JsonShape

namespace Yaml

/-! ## Places -/

/-- A place where a token begins: whether it is the first of its line, or comes where a line might
begin, and its column in that case. -/
structure Spot where
  fresh : Bool
  column : Nat
  rest : List Char

/-- The next place with anything but white space and comments. Where a line begins outside of
brackets, tabs are no white space. -/
def toToken (flow fresh comment : Bool) (column : Nat) : List Char → Spot
  | [] => ⟨fresh, column, []⟩
  | c :: cs =>
    if isBreak c then toToken flow true false 0 cs
    else if comment then toToken flow fresh true (column + 1) cs
    else if c = '#' then toToken flow fresh true (column + 1) cs
    else if c = ' ' ∨ (c = '\t' ∧ (flow ∨ !fresh)) then toToken flow fresh false (column + 1) cs
    else ⟨fresh, column, c :: cs⟩

/-- The next place after a token. -/
def next (cs : List Char) : Spot := toToken false false false 0 cs

/-- The next place in brackets. -/
def nextInFlow (cs : List Char) : List Char := (toToken true false false 0 cs).rest

namespace Spot

/-- Whether the document ends here. -/
def isEnd (s : Spot) : Bool := s.rest.isEmpty || (s.fresh && s.column == 0 && atMarker s.rest)

/-- Whether what stands here begins a line at a column up to `column`, or the document ends. -/
def isWithin (column : Int) (s : Spot) : Bool := s.isEnd || (s.fresh && s.column ≤ column)

/-- Whether a sign and white space stand here, at a column. -/
def isSign (sign : Char) (column : Nat) (s : Spot) : Bool :=
  s.fresh && s.column == column && !s.isEnd && s.rest.head? == some sign && atGap s.rest.tail

end Spot

/-- Whether no line ends between a place and a later one. -/
def sameLine (cs rest : List Char) : Bool :=
  (cs.take (cs.length - rest.length)).all fun c => !isBreak c

/-! ## Names and tags -/

/-- What a node is marked with. -/
structure Properties where
  anchor : Option String
  tag : Option String

/-- Whether a character may stand in the name of an anchor. -/
def inAnchor (c : Char) : Bool :=
  isAsciiLetter c || isAsciiDigit c || c == '_' || c == '-'

/-- The name of an anchor. -/
def anchorName? (cs : List Char) : Option (String × List Char) :=
  match cs.span inAnchor with
  | ([], _) => none
  | (name, rest) =>
    if atGap rest || rest.head?.any fun c => "?:,]\x7d%@`".toList.contains c then
      some (String.ofList name, rest)
    else none

/-- Whether a character may stand in a tag. -/
def inTag (c : Char) : Bool := inAnchor c || ";/?:@&=+$.!~*'()%".toList.contains c

/-- Whether a character may stand in a tag that is written in full. -/
def inLongTag (c : Char) : Bool := inTag c || c == ',' || c == '[' || c == ']'

/-- The tag that stands for a short form, if it is one of the document's own or of YAML itself. -/
def longTag? (short : List Char) : Option String :=
  match short with
  | '!' :: '!' :: name =>
    if name.isEmpty then none else some ("tag:yaml.org,2002:" ++ String.ofList name)
  | '!' :: name => if name.contains '!' then none else some (String.ofList short)
  | _ => none

/-- A tag. -/
def tag? (cs : List Char) : Option (String × List Char) :=
  match cs with
  | '!' :: '<' :: uri =>
    match uri.span inLongTag with
    | (name, '>' :: rest) =>
      if !name.isEmpty && atGap rest then some (String.ofList name, rest) else none
    | _ => none
  | cs =>
    let (short, rest) := cs.span inTag
    if atGap rest || rest.head? == some ',' then (longTag? short).map fun tag => (tag, rest)
    else none

/-- An anchor and a tag in either order, without a line's end between them; none if neither is there
or something is wrong with them. -/
def properties? (cs : List Char) : Option (Properties × List Char) :=
  match cs with
  | '&' :: after => (anchorName? after).bind fun (name, rest) =>
    match rest.dropWhile isSpace with
    | '!' :: more => (tag? ('!' :: more)).map fun (tag, rest) => (⟨some name, some tag⟩, rest)
    | _ => some (⟨some name, none⟩, rest)
  | '!' :: _ => (tag? cs).bind fun (tag, rest) =>
    match rest.dropWhile isSpace with
    | '&' :: more => (anchorName? more).map fun (name, rest) => (⟨some name, some tag⟩, rest)
    | _ => some (⟨none, some tag⟩, rest)
  | _ => none

/-- A node with a tag, where it is a scalar. -/
def withTag (tag : Option String) : Yaml → Yaml
  | scalar plain _ text => scalar plain tag text
  | node => node

/-! ## Nodes -/

/-- A part that has been read, the nodes that have names, and what remains. -/
structure Reading (α : Type) where
  part : α
  named : List (String × Yaml)
  rest : List Char

namespace Reading

variable {α β : Type}

/-- Another part made of the one that has been read. -/
def map (f : α → β) (r : Reading α) : Reading β := ⟨f r.part, r.named, r.rest⟩

/-- A node with its marks. -/
def mark (p : Properties) (r : Reading Yaml) : Reading Yaml :=
  let node := withTag p.tag r.part
  match p.anchor with
  | some name => ⟨node, (name, node) :: r.named, r.rest⟩
  | none => ⟨node, r.named, r.rest⟩

end Reading

/-- A node that stands for one with a name. -/
def alias? (named : List (String × Yaml)) (cs : List Char) : Option (Reading Yaml) := do
  let (name, rest) ← anchorName? cs
  let node ← Entries.get? name named
  some ⟨node, named, rest⟩

/-- A scalar that has been read. -/
def scalarOf (plain : Bool) (named : List (String × Yaml)) (read : List Char × List Char) :
    Reading Yaml :=
  ⟨scalar plain none (String.ofList read.1), named, read.2⟩

/-- How many characters a key may have that no sign introduces. -/
def maxKey : Nat := 1024

/-! ### In brackets -/

mutual

/-- A node in brackets. -/
def flowNode? (named : List (String × Yaml)) : (fuel : Nat) → List Char → Option (Reading Yaml)
  | 0, _ => none
  | fuel + 1, cs => match cs with
    | '*' :: rest => alias? named rest
    | '[' :: rest => (flowItems? named fuel (nextInFlow rest)).map (Reading.map sequence)
    | '\x7b' :: rest => (flowEntries? named fuel (nextInFlow rest)).map (Reading.map mapping)
    | cs => match properties? cs with
      | some (p, rest) =>
        let inner := nextInFlow rest
        if inner.head?.any fun c => c == ',' || c == ']' || c == '\x7d' || c == ':' then
          some (Reading.mark p ⟨empty, named, inner⟩)
        else (flowNode? named fuel inner).map (Reading.mark p)
      | none => match quoted cs with
        | some read => some (scalarOf false named read)
        | none =>
          if startsPlain true cs then (plain true 0 (cs.length + 1) cs).map (scalarOf true named)
          else none

/-- A value in brackets after its colon; it may be left out. -/
def flowValue? (named : List (String × Yaml)) : (fuel : Nat) → List Char → Option (Reading Yaml)
  | 0, _ => none
  | fuel + 1, cs =>
    if cs.head?.any fun c => c == ',' || c == ']' || c == '\x7d' then some ⟨empty, named, cs⟩
    else flowNode? named fuel cs

/-- A node in brackets, and a value if a colon follows in the same line. -/
def flowEntry? (named : List (String × Yaml)) :
    (fuel : Nat) → List Char → Option (Reading (Yaml × Option Yaml))
  | 0, _ => none
  | fuel + 1, cs => do
    let key ← flowNode? named fuel cs
    match nextInFlow key.rest with
    | ':' :: rest =>
      if sameLine cs rest && cs.length - rest.length ≤ maxKey then
        let value ← flowValue? key.named fuel (nextInFlow rest)
        some ⟨(key.part, some value.part), value.named, nextInFlow value.rest⟩
      else none
    | rest => some ⟨(key.part, none), key.named, rest⟩

/-- An entry in brackets that a question mark may introduce. -/
def flowPair? (named : List (String × Yaml)) :
    (fuel : Nat) → List Char → Option (Reading (Yaml × Option Yaml))
  | 0, _ => none
  | fuel + 1, cs => match cs with
    | '?' :: rest =>
      if atGap rest then do
        let key ← flowValue? named fuel (nextInFlow rest)
        match nextInFlow key.rest with
        | ':' :: rest =>
          let value ← flowValue? key.named fuel (nextInFlow rest)
          some ⟨(key.part, some value.part), value.named, nextInFlow value.rest⟩
        | rest => some ⟨(key.part, some empty), key.named, rest⟩
      else flowEntry? named fuel cs
    | cs => flowEntry? named fuel cs

/-- The items of a sequence up to its closing bracket. -/
def flowItems? (named : List (String × Yaml)) :
    (fuel : Nat) → List Char → Option (Reading (List Yaml))
  | 0, _ => none
  | fuel + 1, cs => match cs with
    | ']' :: rest => some ⟨[], named, rest⟩
    | cs => do
      let entry ← flowPair? named fuel cs
      let item := match entry.part with
        | (node, none) => node
        | (key, some value) => mapping [(key, value)]
      match entry.rest with
      | ',' :: rest =>
        let items ← flowItems? entry.named fuel (nextInFlow rest)
        some ⟨item :: items.part, items.named, items.rest⟩
      | ']' :: rest => some ⟨[item], entry.named, rest⟩
      | _ => none

/-- The entries of a mapping up to its closing bracket. -/
def flowEntries? (named : List (String × Yaml)) :
    (fuel : Nat) → List Char → Option (Reading (List (Yaml × Yaml)))
  | 0, _ => none
  | fuel + 1, cs => match cs with
    | '\x7d' :: rest => some ⟨[], named, rest⟩
    | cs => do
      let entry ← flowPair? named fuel cs
      let pair := (entry.part.1, entry.part.2.getD empty)
      match entry.rest with
      | ',' :: rest =>
        let entries ← flowEntries? entry.named fuel (nextInFlow rest)
        some ⟨pair :: entries.part, entries.named, entries.rest⟩
      | '\x7d' :: rest => some ⟨[pair], entry.named, rest⟩
      | _ => none

end

/-! ### By columns -/

/-- A key in one line, without marks. -/
def bareKey? (named : List (String × Yaml)) (cs : List Char) : Option (Reading Yaml) :=
  match cs with
  | '*' :: rest => alias? named rest
  | c :: _ =>
    if c = '[' ∨ c = '\x7b' then flowNode? named (8 * cs.length + 8) cs
    else if c = '"' ∨ c = '\'' then (quoted cs).map (scalarOf false named)
    else if startsPlain false cs then
      (plainLine false true cs).map fun (text, rest) => scalarOf true named (trimEnd text, rest)
    else none
  | [] => none

/-- A key in one line, up to its colon and the white space after it. -/
def key? (named : List (String × Yaml)) (cs : List Char) : Option (Reading Yaml) := do
  let key ← match properties? cs with
    | some (p, rest) => (bareKey? named (rest.dropWhile isSpace)).map (Reading.mark p)
    | none => bareKey? named cs
  match key.rest.dropWhile isSpace with
  | ':' :: rest =>
    if atGap rest && sameLine cs rest && cs.length - rest.length ≤ maxKey + 1 then
      some { key with rest := rest }
    else none
  | _ => none

mutual

/-- A node inside something that begins at the column `outer`. -/
def node? (outer : Int) (named : List (String × Yaml)) :
    (fuel : Nat) → Spot → Option (Reading Yaml)
  | 0, _ => none
  | fuel + 1, s =>
    if s.isSign '-' s.column then (items? s.column named fuel s).map (Reading.map sequence)
    else if s.fresh && (s.isSign '?' s.column || (key? named s.rest).isSome) then
      (entries? s.column named fuel s).map (Reading.map mapping)
    else match s.rest with
      | '*' :: rest => alias? named rest
      | c :: _ =>
        if c = '[' ∨ c = '\x7b' then flowNode? named (8 * s.rest.length + 8) s.rest
        else if c = '"' ∨ c = '\'' then (quoted s.rest).map (scalarOf false named)
        else if c = '|' ∨ c = '>' then (block outer s.rest).map (scalarOf false named)
        else if startsPlain false s.rest then
          (plain false (outer + 1).toNat (s.rest.length + 1) s.rest).map (scalarOf true named)
        else (properties? s.rest).bind fun (p, rest) =>
          let inner := next rest
          if inner.isWithin outer then some (Reading.mark p ⟨empty, named, rest⟩)
          else (node? outer named fuel inner).map (Reading.mark p)
      | [] => none

/-- The value after the colon of an entry that begins at a column; it may be left out, and a
sequence may begin at the same column. -/
def value? (column : Nat) (named : List (String × Yaml)) :
    (fuel : Nat) → Spot → List Char → Option (Reading Yaml)
  | 0, _, _ => none
  | fuel + 1, s, rest =>
    if s.isSign '-' column then (items? column named fuel s).map (Reading.map sequence)
    else if s.isWithin column then some ⟨empty, named, rest⟩
    else node? column named fuel s

/-- One entry that begins at a column. -/
def entry? (column : Nat) (named : List (String × Yaml)) :
    (fuel : Nat) → Spot → Option (Reading (Yaml × Yaml))
  | 0, _ => none
  | fuel + 1, s =>
    if s.isSign '?' column then do
      let after := s.rest.tail
      let key ← value? column named fuel (toToken false true false (column + 1) after) after
      let colon := next key.rest
      if colon.isSign ':' column then
        let after := colon.rest.tail
        let value ← value? column key.named fuel (toToken false true false (column + 1) after) after
        some ⟨(key.part, value.part), value.named, value.rest⟩
      else some ⟨(key.part, empty), key.named, key.rest⟩
    else do
      let key ← key? named s.rest
      let value ← value? column key.named fuel (next key.rest) key.rest
      some ⟨(key.part, value.part), value.named, value.rest⟩

/-- The entries of a mapping that begins at a column. -/
def entries? (column : Nat) (named : List (String × Yaml)) :
    (fuel : Nat) → Spot → Option (Reading (List (Yaml × Yaml)))
  | 0, _ => none
  | fuel + 1, s => do
    let entry ← entry? column named fuel s
    let after := next entry.rest
    if after.isWithin (column - 1) then some ⟨[entry.part], entry.named, entry.rest⟩
    else if after.fresh && after.column == column then
      let entries ← entries? column entry.named fuel after
      some ⟨entry.part :: entries.part, entries.named, entries.rest⟩
    else none

/-- The items of a sequence that begins at a column. -/
def items? (column : Nat) (named : List (String × Yaml)) :
    (fuel : Nat) → Spot → Option (Reading (List Yaml))
  | 0, _ => none
  | fuel + 1, s => do
    let rest := s.rest.tail
    let inner := toToken false true false (column + 1) rest
    let item ← if inner.isWithin column then some ⟨empty, named, rest⟩
      else node? column named fuel inner
    let after := next item.rest
    if after.isSign '-' column then
      let items ← items? column item.named fuel after
      some ⟨item.part :: items.part, items.named, items.rest⟩
    else if after.isWithin column then some ⟨[item.part], item.named, item.rest⟩
    else none

end

/-! ## Documents -/

/-- The version of YAML that a directive may give, 1.1 or 1.2; gives what follows. -/
def afterVersion? : List Char → Option (List Char)
  | '1' :: '.' :: minor :: rest => if minor = '1' ∨ minor = '2' then some rest else none
  | _ => none

/-- The handle that a directive gives to tags, and the tags' first characters after white space;
gives the handle and what follows. -/
def afterHandle? : List Char → Option (List Char × List Char)
  | '!' :: cs =>
    let (name, rest) := cs.span inAnchor
    let closed := rest.head? == some '!'
    let rest := if closed then rest.tail else rest
    match (rest.dropWhile isSpace).span inLongTag with
    | ([], _) => none
    | (_, after) =>
      if (closed || name.isEmpty) && isSpace (rest.headD '!') then some (name, after) else none
  | _ => none

/-- A directive: its name, or the handle that it is about, and what follows. -/
def directive? : List Char → Option (List Char × List Char)
  | '%' :: 'Y' :: 'A' :: 'M' :: 'L' :: c :: cs =>
    if isSpace c then (afterVersion? (cs.dropWhile isSpace)).map fun rest => ("YAML".toList, rest)
    else none
  | '%' :: 'T' :: 'A' :: 'G' :: c :: cs =>
    if isSpace c then
      (afterHandle? (cs.dropWhile isSpace)).map fun (name, rest) => ('!' :: name, rest)
    else none
  | _ => none

/-- The place after directives, of which no two are about the same; `about` tells those of the
directives before. -/
def afterDirectives? (about : List (List Char)) : (fuel : Nat) → Spot → Option Spot
  | 0, _ => none
  | fuel + 1, s =>
    if s.rest.head? = some '%' ∧ s.column = 0 then do
      let (name, rest) ← directive? s.rest
      if about.contains name || !(next rest).fresh then none
      else afterDirectives? (name :: about) fuel (next rest)
    else some s

/-- The place where the only document of a text begins, after its mark; it needs one if there are
directives. -/
def start? (cs : List Char) : Option Spot := do
  let first := toToken false true false 0 cs
  let s ← afterDirectives? [] (cs.length + 1) first
  let bare := if s.rest = first.rest then some s else none
  match s.rest with
  | '-' :: '-' :: '-' :: rest =>
    if s.fresh && s.column == 0 && atMarker s.rest then some (toToken false false false 3 rest)
    else bare
  | _ => bare

/-- Whether nothing but marks of a document's end stands here. -/
def isFinished : (fuel : Nat) → Spot → Bool
  | 0, _ => false
  | fuel + 1, s => s.rest.isEmpty ||
    match s.rest with
    | '.' :: '.' :: '.' :: rest => s.fresh && s.column == 0 && atMarker s.rest &&
      isFinished fuel (next rest)
    | _ => false

/-- The document that characters with normal breaks are. -/
def document? (cs : List Char) : Option Yaml := do
  let s ← start? cs
  if s.isEnd then
    if isFinished (s.rest.length + 1) s then some empty else none
  else
    let read ← node? (-1) [] (8 * cs.length + 8) s
    if isFinished (read.rest.length + 1) (next read.rest) then some read.part else none

/-- The document that a text is, empty if it holds none. -/
def ofText? (text : String) : Option Yaml :=
  let cs := match text.toList with
    | '\ufeff' :: cs => cs
    | cs => cs
  if cs.all isAllowed then document? (normalBreaks cs) else none

end Yaml

end JsonShape
