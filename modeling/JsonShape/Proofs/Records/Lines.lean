import Mathlib.Data.String.Basic
import JsonShape.Proofs.Text.Digits
import JsonShape.Proofs.Text.Fields
import JsonShape.Records

/-!
# Records of lines

What a line holds does not depend on the lines around it: the records of lines are those of each line in
turn, unless some line is no document, and then the first one that is none is named (`ofLines_eq`). So two
texts that are put together with a line break between them have the records of the one and then of the
other, and a line that cannot be read is counted from where its text begins (`decode_append_newline`).
-/

set_option autoImplicit false

namespace JsonShape

namespace Records

/-! ## One line -/

/-- The records on a line: none if it is blank, and nothing at all if it is no document. -/
def onLine? (line : List Char) : Option (List Json) :=
  if (trimBlanks line).isEmpty then some []
  else (Json.read? (String.ofList (trimBlanks line))).map fun v => [v]

/-- What is said of the line of a number, that it is no document. -/
def lineFailure (number : Nat) : Failure :=
  .input ("Failed to parse JSONL at line " ++ Failure.decimal number)

/-- The text of the failure names its line. -/
theorem lineFailure_injective : Function.Injective lineFailure := by
  intro m n h
  have digits := congrArg String.toList (Failure.input.inj h)
  rw [String.toList_append, String.toList_append, List.append_cancel_left_eq, Failure.decimal,
    Failure.decimal, String.toList_ofList, String.toList_ofList] at digits
  rw [← digitsValue_toDigits m, digits, digitsValue_toDigits]

theorem ofLines_cons (number : Nat) (line : List Char) (lines : List (List Char)) :
    ofLines number (line :: lines) =
      match onLine? line with
      | some records => (ofLines (number + 1) lines).map (records ++ ·)
      | none => .error (lineFailure number) := by
  rw [ofLines, onLine?]
  split
  · cases ofLines (number + 1) lines <;> rfl
  · cases Json.read? (String.ofList (trimBlanks line)) <;> rfl

/-! ## All lines -/

/-- The place of the first line that is no document. -/
def firstBad? (lines : List (List Char)) : Option Nat :=
  lines.findIdx? fun line => (onLine? line).isNone

/-- The records of each line in turn. -/
def onLines (lines : List (List Char)) : List Json :=
  lines.flatMap fun line => (onLine? line).getD []

/-- The records of lines are those of each line, unless one is no document. -/
theorem ofLines_eq (number : Nat) (lines : List (List Char)) :
    ofLines number lines =
      match firstBad? lines with
      | some place => .error (lineFailure (number + place))
      | none => .ok (onLines lines) := by
  induction lines generalizing number with
  | nil => rfl
  | cons line lines ih =>
    have first : firstBad? (line :: lines) =
        if (onLine? line).isNone then some 0 else (firstBad? lines).map (· + 1) :=
      List.findIdx?_cons
    rw [ofLines_cons, ih, first]
    cases read : onLine? line with
    | none => rfl
    | some records =>
      cases firstBad? lines with
      | none => simp [onLines, read, Except.map]
      | some place => simp [Except.map, Nat.add_assoc, Nat.add_comm 1]

/-- The place of a line in a text is counted through what stands before. -/
theorem firstBad?_append (front back : List (List Char)) :
    firstBad? (front ++ back) =
      (firstBad? front).or ((firstBad? back).map (· + front.length)) :=
  List.findIdx?_append

theorem onLines_append (front back : List (List Char)) :
    onLines (front ++ back) = onLines front ++ onLines back :=
  List.flatMap_append

/-! ## Texts -/

theorem ofJsonLines_eq (text : String) :
    ofJsonLines text =
      match firstBad? (fields '\n' text.toList) with
      | some place => .error (lineFailure (1 + place))
      | none => .ok (onLines (fields '\n' text.toList)) :=
  ofLines_eq 1 _

theorem ofJsonLines_eq_ok_iff {text : String} {records : List Json} :
    ofJsonLines text = .ok records ↔
      firstBad? (fields '\n' text.toList) = none ∧ onLines (fields '\n' text.toList) = records := by
  rw [ofJsonLines_eq]
  cases firstBad? (fields '\n' text.toList) <;> simp

theorem ofJsonLines_eq_error_iff {text : String} {failure : Failure} :
    ofJsonLines text = .error failure ↔
      ∃ place, firstBad? (fields '\n' text.toList) = some place ∧ failure = lineFailure (1 + place) := by
  rw [ofJsonLines_eq]
  cases firstBad? (fields '\n' text.toList) <;> simp [eq_comm]

theorem fields_append_newline (a b : String) :
    fields '\n' (a ++ "\n" ++ b).toList = fields '\n' a.toList ++ fields '\n' b.toList := by
  rw [String.toList_append, String.toList_append, List.append_assoc]
  exact fields_append_cons a.toList b.toList

section
variable {settings : InputSettings} (form : settings.form = .jsonLines)
include form

theorem decode_eq_ofJsonLines (text : String) : decode settings text = ofJsonLines text := by
  rw [decode, form]

/-- Of two texts put together with a line break between them, each is read as it would be alone: the
records of the first come before those of the second, a line of the first that is no document stays where
it is, and one of the second comes after all lines of the first. There is no other way to fail. -/
theorem decode_append_newline (a b : String) :
    (∀ xs ys, decode settings a = .ok xs → decode settings b = .ok ys →
      decode settings (a ++ "\n" ++ b) = .ok (xs ++ ys)) ∧
    (∀ n, decode settings a = .error (lineFailure n) →
      decode settings (a ++ "\n" ++ b) = .error (lineFailure n)) ∧
    (∀ xs n, decode settings a = .ok xs → decode settings b = .error (lineFailure n) →
      decode settings (a ++ "\n" ++ b) = .error (lineFailure (n + 1 + a.toList.count '\n'))) ∧
    ∀ failure, decode settings a = .error failure →
      ∃ n, 1 ≤ n ∧ n ≤ a.toList.count '\n' + 1 ∧ failure = lineFailure n := by
  simp only [decode_eq_ofJsonLines form, ofJsonLines_eq_ok_iff, ofJsonLines_eq_error_iff,
    fields_append_newline, firstBad?_append, onLines_append]
  refine ⟨?_, ?_, ?_, ?_⟩
  · rintro xs ys ⟨good, rfl⟩ ⟨good', rfl⟩
    rw [good, good']
    exact ⟨rfl, rfl⟩
  · rintro n ⟨place, bad, number⟩
    rw [bad]
    exact ⟨place, rfl, number⟩
  · rintro xs n ⟨good, -⟩ ⟨place, bad, number⟩
    rw [good, bad, length_fields, lineFailure_injective number]
    exact ⟨place + (a.toList.count '\n' + 1), rfl, congrArg lineFailure (by omega)⟩
  · rintro failure ⟨place, bad, number⟩
    have within : place < (fields '\n' a.toList).length := (List.findIdx?_eq_some_iff_getElem.1 bad).1
    rw [length_fields] at within
    exact ⟨1 + place, by omega, by omega, number⟩

end

/-- Carriage returns, blank lines and line breaks at the seam: the third line of the second text is the
sixth of the whole. -/
theorem decode_append_newline_third :
    decode ⟨.jsonLines, none, false⟩ "true\r\n \n" = .ok [.bool true] ∧
    decode ⟨.jsonLines, none, false⟩ "\n null\nnone\n" = .error (lineFailure 3) ∧
    decode ⟨.jsonLines, none, false⟩ ("true\r\n \n" ++ "\n" ++ "\n null\nnone\n") =
      .error (lineFailure 6) := by
  have first : decode ⟨.jsonLines, none, false⟩ "true\r\n \n" = .ok [.bool true] := rfl
  have second : decode ⟨.jsonLines, none, false⟩ "\n null\nnone\n" = .error (lineFailure 3) := rfl
  exact ⟨first, second, (decode_append_newline rfl _ _).2.2.1 _ _ first second⟩

end Records

end JsonShape
