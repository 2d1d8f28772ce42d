import ClientGen.Dict
import ClientGen.Json.Number
import ClientGen.Json.Tree

/-!
JSON values. The members of an object are in document order, and no key occurs twice: a repeated
key keeps its first place and takes its last value.
-/

namespace ClientGen

inductive Json
  | null
  | bool (b : Bool)
  | number (literal : String)
  | text (s : String)
  | array (items : List Json)
  | object (members : List (String × Json))

namespace Json

def text? : Json → Option String
  | .text s => some s
  | _ => none

def items? : Json → Option (List Json)
  | .array items => some items
  | _ => none

def members? : Json → Option (List (String × Json))
  | .object members => some members
  | _ => none

def get? (j : Json) (key : String) : Option Json :=
  j.members?.bind (·.lookup key)

def isHighSurrogate (n : Nat) : Bool := 0xd800 ≤ n && n < 0xdc00

def isLowSurrogate (n : Nat) : Bool := 0xdc00 ≤ n && n < 0xe000

def bytes? : List Piece → Option (List UInt8)
  | [] => some []
  | .byte b :: rest => (bytes? rest).map (b :: ·)
  | .unit n :: rest =>
    if isHighSurrogate n then
      match rest with
      | .unit m :: rest =>
        if isLowSurrogate m then
          let c := Char.ofNat (0x10000 + (n - 0xd800) * 0x400 + (m - 0xdc00))
          (bytes? rest).map (String.utf8EncodeChar c ++ ·)
        else none
      | _ => none
    else if isLowSurrogate n then none
    else (bytes? rest).map (String.utf8EncodeChar (Char.ofNat n) ++ ·)

def string? (pieces : List Piece) : Option String := do
  let bytes ← bytes? pieces
  String.fromUTF8? bytes.toByteArray

mutual

def ofTree? (depth : Nat) : Tree → Option Json
  | .null => some .null
  | .bool b => some (.bool b)
  | .number literal => if Number.isInRange literal then some (.number literal) else none
  | .text pieces => (string? pieces).map .text
  | .array items =>
    match depth with
    | 0 => none
    | depth + 1 => (ofItems? depth items).map .array
  | .object members =>
    match depth with
    | 0 => none
    | depth + 1 => (ofMembers? depth members).map fun ms => .object (Dict.ofList ms)

def ofItems? (depth : Nat) : List Tree → Option (List Json)
  | [] => some []
  | t :: rest => do
    let j ← ofTree? depth t
    let js ← ofItems? depth rest
    some (j :: js)

def ofMembers? (depth : Nat) : List (List Piece × Tree) → Option (List (String × Json))
  | [] => some []
  | (key, t) :: rest => do
    let k ← string? key
    let j ← ofTree? depth t
    let js ← ofMembers? depth rest
    some ((k, j) :: js)

end

def maxDepth : Nat := 127

def read? (bytes : List UInt8) : Option Json :=
  (Tree.read? bytes).bind (ofTree? maxDepth)

def ofString? (s : String) : Option Json := read? s.toUTF8.data.toList

end Json

end ClientGen
