/-!
The tokens of a JSON text. Bytes are taken one at a time, so a text is scanned in one pass from
left to right.
-/

namespace ClientGen.Json

/-- A string is a sequence of bytes and of UTF-16 units written as `\u` escapes. -/
inductive Piece
  | byte (b : UInt8)
  | unit (n : Nat)

inductive Token
  | openArray | closeArray | openObject | closeObject | comma | colon
  | null
  | bool (b : Bool)
  | number (literal : String)
  | text (pieces : List Piece)

namespace Token

inductive NumberStage
  | minus | zero | digits | point | fraction | exponent | exponentSign | exponentDigits

def isDigit (b : UInt8) : Bool := 48 ≤ b && b ≤ 57

def NumberStage.next? (s : NumberStage) (b : UInt8) : Option NumberStage :=
  let isE := b == 101 || b == 69
  match s with
  | minus => if b == 48 then some zero else if isDigit b then some digits else none
  | zero => if b == 46 then some point else if isE then some exponent else none
  | digits =>
    if isDigit b then some digits else if b == 46 then some point
    else if isE then some exponent else none
  | point => if isDigit b then some fraction else none
  | fraction => if isDigit b then some fraction else if isE then some exponent else none
  | exponent =>
    if isDigit b then some exponentDigits
    else if b == 43 || b == 45 then some exponentSign else none
  | exponentSign => if isDigit b then some exponentDigits else none
  | exponentDigits => if isDigit b then some exponentDigits else none

def NumberStage.complete : NumberStage → Bool
  | zero | digits | fraction | exponentDigits => true
  | minus | point | exponent | exponentSign => false

def hexDigit? (b : UInt8) : Option Nat :=
  if isDigit b then some (b.toNat - 48)
  else if 97 ≤ b && b ≤ 102 then some (b.toNat - 87)
  else if 65 ≤ b && b ≤ 70 then some (b.toNat - 55)
  else none

/-- What is in progress between two bytes. What was seen of a token is kept reversed. -/
inductive Mode
  | between
  | word (rest : List UInt8) (token : Token)
  | number (stage : NumberStage) (seen : List UInt8)
  | text (seen : List Piece)
  | escape (seen : List Piece)
  | hex (left value : Nat) (seen : List Piece)

def numberToken (seen : List UInt8) : Token :=
  .number (String.ofList (seen.reverse.map fun b => Char.ofNat b.toNat))

def start? (b : UInt8) : Option (List Token × Mode) :=
  match b.toNat with
  | 0x20 | 0x09 | 0x0a | 0x0d => some ([], .between)
  | 0x5b => some ([.openArray], .between)
  | 0x5d => some ([.closeArray], .between)
  | 0x7b => some ([.openObject], .between)
  | 0x7d => some ([.closeObject], .between)
  | 0x2c => some ([.comma], .between)
  | 0x3a => some ([.colon], .between)
  | 0x22 => some ([], .text [])
  | 0x6e => some ([], .word "ull".toUTF8.data.toList .null)
  | 0x74 => some ([], .word "rue".toUTF8.data.toList (.bool true))
  | 0x66 => some ([], .word "alse".toUTF8.data.toList (.bool false))
  | 0x2d => some ([], .number .minus [b])
  | 0x30 => some ([], .number .zero [b])
  | _ => if isDigit b then some ([], .number .digits [b]) else none

def escaped? (b : UInt8) : Option UInt8 :=
  match b.toNat with
  | 0x22 | 0x5c | 0x2f => some b
  | 0x62 => some 0x08
  | 0x66 => some 0x0c
  | 0x6e => some 0x0a
  | 0x72 => some 0x0d
  | 0x74 => some 0x09
  | _ => none

def Mode.step? (m : Mode) (b : UInt8) : Option (List Token × Mode) :=
  match m with
  | .between => start? b
  | .word [] token => (start? b).map fun (ts, m) => (token :: ts, m)
  | .word (c :: rest) token => if b == c then some ([], .word rest token) else none
  | .number stage seen =>
    match stage.next? b with
    | some stage => some ([], .number stage (b :: seen))
    | none =>
      if stage.complete then (start? b).map fun (ts, m) => (numberToken seen :: ts, m) else none
  | .text seen =>
    if b == 0x22 then some ([.text seen.reverse], .between)
    else if b == 0x5c then some ([], .escape seen)
    else if b < 0x20 then none
    else some ([], .text (.byte b :: seen))
  | .escape seen =>
    if b == 0x75 then some ([], .hex 3 0 seen)
    else (escaped? b).map fun c => ([], .text (.byte c :: seen))
  | .hex left value seen =>
    (hexDigit? b).map fun d =>
      match left with
      | 0 => ([], .text (.unit (value * 16 + d) :: seen))
      | left + 1 => ([], .hex left (value * 16 + d) seen)

def Mode.finish? : Mode → Option (List Token)
  | .between => some []
  | .word [] token => some [token]
  | .number stage seen => if stage.complete then some [numberToken seen] else none
  | _ => none

/-- The tokens of a text, or `none` where some byte belongs to no token. -/
def scan? (bytes : List UInt8) : Option (List Token) :=
  let step := fun (acc : List Token × Mode) (b : UInt8) =>
    (acc.2.step? b).map fun (ts, m) => (ts.reverse ++ acc.1, m)
  match bytes.foldlM step ([], .between) with
  | none => none
  | some (seen, m) => m.finish?.map fun ts => seen.reverse ++ ts

end Token

end ClientGen.Json
