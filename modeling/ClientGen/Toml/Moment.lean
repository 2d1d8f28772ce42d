import ClientGen.Toml.Number

/-!
Dates and times of a TOML text, and the one form in which each is written back: the parts joined by
`T`, the seconds given, the fraction without zeros at its end.
-/

namespace ClientGen.Toml

structure LocalDate where
  year : Nat
  month : Nat
  day : Nat

structure LocalTime where
  hour : Nat
  minute : Nat
  second : Nat
  /-- The digits after the point: nine at most, of which the last is no zero. -/
  fraction : List Char

inductive Offset
  | utc
  /-- How far local time is ahead. -/
  | ahead (minutes : Int)

inductive Moment
  | date (d : LocalDate)
  | time (t : LocalTime)
  | both (d : LocalDate) (t : LocalTime) (offset : Option Offset)

def digits? (count most : Nat) (s : List Char) : Option Nat :=
  let n := digitsValue 10 s
  if s.length = count ∧ s.all Char.isDigit ∧ n ≤ most then some n else none

def padded (width n : Nat) : String :=
  let digits := (toString n).toList
  String.ofList (List.replicate (width - digits.length) '0' ++ digits)

namespace LocalDate

def daysIn (year month : Nat) : Nat :=
  match month with
  | 2 => if year % 4 = 0 ∧ (year % 100 ≠ 0 ∨ year % 400 = 0) then 29 else 28
  | 4 | 6 | 9 | 11 => 30
  | _ => 31

def read? (s : List Char) : Option LocalDate :=
  match s.splitOn '-' with
  | [y, m, d] => do
    let year ← digits? 4 9999 y
    let month ← digits? 2 12 m
    let day ← digits? 2 (daysIn year month) d
    if month = 0 ∨ day = 0 then none else some { year, month, day }
  | _ => none

def text (d : LocalDate) : String :=
  padded 4 d.year ++ "-" ++ padded 2 d.month ++ "-" ++ padded 2 d.day

end LocalDate

namespace LocalTime

/-- Digits beyond the ninth are dropped. -/
def fraction? : List Char → Option (List Char)
  | [] => some []
  | '.' :: digits =>
    if digits ≠ [] ∧ digits.all Char.isDigit then
      some ((digits.take 9).reverse.dropWhile (· = '0')).reverse
    else none
  | _ => none

/-- The seconds may be missing, and may be 60 where one is put in. -/
def read? (s : List Char) : Option LocalTime :=
  match s.splitOn ':' with
  | [h, m] => do
    some { hour := ← digits? 2 23 h, minute := ← digits? 2 59 m, second := 0, fraction := [] }
  | [h, m, s] => do
    some {
      hour := ← digits? 2 23 h
      minute := ← digits? 2 59 m
      second := ← digits? 2 60 (s.take 2)
      fraction := ← fraction? (s.drop 2) }
  | _ => none

def text (t : LocalTime) : String :=
  padded 2 t.hour ++ ":" ++ padded 2 t.minute ++ ":" ++ padded 2 t.second ++
    if t.fraction = [] then "" else "." ++ String.ofList t.fraction

end LocalTime

namespace Offset

def minutes? (s : List Char) : Option Nat :=
  match s.splitOn ':' with
  | [h, m] => do some ((← digits? 2 23 h) * 60 + (← digits? 2 59 m))
  | _ => none

def read? : List Char → Option Offset
  | ['Z'] | ['z'] => some utc
  | '+' :: rest => (minutes? rest).map fun n => ahead n
  | '-' :: rest => (minutes? rest).map fun n => ahead (-n)
  | _ => none

def text : Offset → String
  | utc => "Z"
  | ahead minutes =>
    (if minutes < 0 then "-" else "+") ++ padded 2 (minutes.natAbs / 60) ++ ":" ++
      padded 2 (minutes.natAbs % 60)

end Offset

namespace Moment

def startsOffset (c : Char) : Bool := c == 'Z' || c == 'z' || c == '+' || c == '-'

/-- Only a time of a given date has an offset. -/
def ofDate? (d : LocalDate) (s : List Char) : Option Moment := do
  let t ← LocalTime.read? (s.takeWhile fun c => !startsOffset c)
  match s.dropWhile fun c => !startsOffset c with
  | [] => some (both d t none)
  | offset => some (both d t (← Offset.read? offset))

/-- A date and its time are joined by `T` or one blank. -/
def read? (s : List Char) : Option Moment :=
  match LocalDate.read? (s.take 10), s.drop 10 with
  | some d, [] => some (date d)
  | some d, 'T' :: rest | some d, 't' :: rest | some d, ' ' :: rest => ofDate? d rest
  | _, _ => (LocalTime.read? s).map time

def text : Moment → String
  | date d => d.text
  | time t => t.text
  | both d t offset => d.text ++ "T" ++ t.text ++ (offset.map Offset.text).getD ""

end Moment

end ClientGen.Toml
