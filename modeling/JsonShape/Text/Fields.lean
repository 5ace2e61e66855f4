/-!
# Fields of a text

A text cut at every occurrence of a separator: `fields` gives the parts between, empty ones too, so
there is one more of them than there are separators.
-/

set_option autoImplicit false

namespace JsonShape

/-- The parts of a text between separators. -/
def fields (separator : Char) : List Char → List (List Char)
  | [] => [[]]
  | c :: cs =>
    if c = separator then [] :: fields separator cs
    else match fields separator cs with
      | [] => [[c]]
      | part :: parts => (c :: part) :: parts

end JsonShape
