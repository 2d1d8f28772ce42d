import ClientGen.Toml.Moment
import ClientGen.Toml.Number

/-!
The values of a TOML text that are no strings and hold no others. Booleans and numbers are kept
without their value, which no setting asks for.
-/

namespace ClientGen.Toml

inductive Scalar
  /-- A boolean, or a number that can be held. -/
  | plain
  /-- A number that cannot be held, and that nobody may read. -/
  | outOfRange
  | moment (m : Moment)

namespace Scalar

def ofRange (isHeld : Bool) : Scalar := if isHeld then plain else outOfRange

def float? (s : List Char) : Option Scalar :=
  let (_, s) := signed s
  if s = "inf".toList ∨ s = "nan".toList then some plain
  else (decimal? s).map fun d => ofRange (holdsDecimal d)

def ofChars? (s : List Char) : Option Scalar :=
  if s = "true".toList ∨ s = "false".toList then some plain
  else
    ((integer? s).map fun n => ofRange (holdsInteger n)) <|> float? s <|>
      (Moment.read? s).map moment

def ends (c : Char) : Bool :=
  c == ',' || c == ']' || c == '}' || c == '#' || c == '\n' || c == '\r' || c == ' ' || c == '\t'

/-- A scalar and the rest. A blank goes on with it only between a date and a time. -/
def read? (s : List Char) : Option (Scalar × List Char) :=
  let word := s.takeWhile fun c => !ends c
  let rest := s.dropWhile fun c => !ends c
  match rest with
  | ' ' :: after =>
    if (LocalDate.read? word).isSome && after.head?.any Char.isDigit then
      let time := after.takeWhile fun c => !ends c
      (ofChars? (word ++ ' ' :: time)).map (·, after.dropWhile fun c => !ends c)
    else (ofChars? word).map (·, rest)
  | _ => (ofChars? word).map (·, rest)

end Scalar

end ClientGen.Toml
