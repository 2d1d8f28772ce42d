/-!
Numbers of a TOML text, and whether one can be held: a whole number in 128 bits, with or without a
sign, any other in a double.
-/

namespace ClientGen.Toml

def grouped? (isDigit : Char → Bool) (s : List Char) : Option (List Char) :=
  if (s.splitOn '_').all fun group => group ≠ [] && group.all isDigit then
    some (s.filter (· ≠ '_'))
  else none

def isHexDigit (c : Char) : Bool := c.isDigit || ('a' ≤ c && c ≤ 'f') || ('A' ≤ c && c ≤ 'F')

def digitValue (c : Char) : Nat :=
  if c.isDigit then c.toNat - 48 else if 'a' ≤ c then c.toNat - 87 else c.toNat - 55

def digitsValue (base : Nat) (digits : List Char) : Nat :=
  digits.foldl (fun n c => n * base + digitValue c) 0

def whole? (s : List Char) : Option (List Char) :=
  if s.length = 1 ∨ s.head? ≠ some '0' then grouped? Char.isDigit s else none

def signed : List Char → Bool × List Char
  | '-' :: rest => (true, rest)
  | '+' :: rest => (false, rest)
  | s => (false, s)

def negateIf (negative : Bool) (n : Nat) : Int := if negative then -n else n

def integer? : List Char → Option Int
  | '0' :: 'x' :: s => (grouped? isHexDigit s).map fun digits => digitsValue 16 digits
  | '0' :: 'o' :: s =>
    (grouped? (fun c => '0' ≤ c && c ≤ '7') s).map fun digits => digitsValue 8 digits
  | '0' :: 'b' :: s =>
    (grouped? (fun c => c == '0' || c == '1') s).map fun digits => digitsValue 2 digits
  | s =>
    let (negative, s) := signed s
    (whole? s).map fun digits => negateIf negative (digitsValue 10 digits)

def holdsInteger (n : Int) : Bool :=
  -0x80000000000000000000000000000000 ≤ n && n < 0x100000000000000000000000000000000

structure Decimal where
  digits : List Char
  exponent : Int

def exponent? (s : List Char) : Option Int :=
  let (negative, s) := signed s
  (grouped? Char.isDigit s).map fun digits => negateIf negative (digitsValue 10 digits)

def decimal? (s : List Char) : Option Decimal := do
  let isE := fun c => c == 'e' || c == 'E'
  let mantissa := s.takeWhile fun c => !isE c
  let scale := s.dropWhile fun c => !isE c
  let fraction := mantissa.dropWhile (· ≠ '.')
  if fraction = [] ∧ scale = [] then none
  else
    let before ← whole? (mantissa.takeWhile (· ≠ '.'))
    let after ← if fraction = [] then some [] else grouped? Char.isDigit fraction.tail
    let exponent ← if scale = [] then some 0 else exponent? scale.tail
    some { digits := before ++ after, exponent := exponent - after.length }

/-- Halfway from the greatest double to the next power of two. What is less rounds to a double. -/
def doubleEnd : Nat := 0x3fffffffffffff <<< 970

/-- The number of digits settles all but the numbers near the end of the doubles. -/
def holdsDecimal (d : Decimal) : Bool :=
  let digits := d.digits.dropWhile (· = '0')
  let size := digits.length + d.exponent
  if digits = [] || size < 300 then true
  else if 310 < size then false
  else
    match d.exponent with
    | .ofNat e => digitsValue 10 digits * Nat.pow 10 e < doubleEnd
    | .negSucc e => digitsValue 10 digits < doubleEnd * Nat.pow 10 (e + 1)

end ClientGen.Toml
