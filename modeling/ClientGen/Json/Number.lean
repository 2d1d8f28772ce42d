/-!
The range of JSON numbers. Digits are gathered into 64 bits; integer digits beyond them only raise
the exponent, and fraction digits beyond them are dropped. A number is in range when its
significand, scaled by its power of ten, is a finite double.
-/

namespace ClientGen.Json.Number

structure Gathered where
  significand : Nat
  exponent : Int
  full : Bool

def digit (c : Char) : Nat := c.toNat - 48

def Gathered.push (g : Gathered) (inFraction : Bool) (c : Char) : Gathered :=
  let next := g.significand * 10 + digit c
  if g.full || next ≥ 0x10000000000000000 then
    { g with full := true, exponent := if inFraction then g.exponent else g.exponent + 1 }
  else { g with significand := next, exponent := if inFraction then g.exponent - 1 else g.exponent }

def gather (whole fraction : List Char) : Gathered :=
  let g := whole.foldl (Gathered.push · false) ⟨0, 0, false⟩
  fraction.foldl (Gathered.push · true) { g with full := false }

def overflows (significand : Nat) (exponent : Int) : Bool :=
  if significand == 0 || exponent < 0 then false
  else if exponent > 308 then true
  else (significand.toUInt64.toFloat * Float.ofScientific 1 false exponent.toNat).isInf

def exponent? (digits : List Char) : Option Nat :=
  let n := digits.foldl (fun n c => n * 10 + digit c) 0
  if n < 0x80000000 then some n else none

def isInRange (text : String) : Bool :=
  let unsigned := if text.toList.head? = some '-' then text.toList.tail else text.toList
  let isE := fun c => c == 'e' || c == 'E'
  let mantissa := unsigned.takeWhile fun c => !isE c
  let scale := (unsigned.dropWhile fun c => !isE c).tail
  let g := gather (mantissa.takeWhile (· ≠ '.')) (mantissa.dropWhile (· ≠ '.')).tail
  let negative := scale.head? = some '-'
  let digits := scale.filter Char.isDigit
  match exponent? digits with
  | none => negative || g.significand == 0
  | some n => !overflows g.significand (g.exponent + if negative then -(n : Int) else n)

end ClientGen.Json.Number
