import ClientGen.Json.Value

/-!
JSON values as indented text: two blanks a level, one member or item on a line.
-/

namespace ClientGen.Json

def hexByte (n : Nat) : List Char :=
  let digits := Nat.toDigits 16 n
  if digits.length < 2 then '0' :: digits else digits

def escapedChar (c : Char) : List Char :=
  match c with
  | '"' => ['\\', '"']
  | '\\' => ['\\', '\\']
  | '\x08' => ['\\', 'b']
  | '\x0c' => ['\\', 'f']
  | '\n' => ['\\', 'n']
  | '\r' => ['\\', 'r']
  | '\t' => ['\\', 't']
  | c => if c.toNat < 0x20 then ['\\', 'u', '0', '0'] ++ hexByte c.toNat else [c]

def quote (s : String) : String :=
  String.ofList ('"' :: s.toList.flatMap escapedChar ++ ['"'])

mutual

def pretty (indent : String) : Json → String
  | .null => "null"
  | .bool b => if b then "true" else "false"
  | .number literal => literal
  | .text s => quote s
  | .array [] => "[]"
  | .array (j :: js) =>
    "[\n" ++ String.intercalate ",\n" (prettyItems (indent ++ "  ") (j :: js)) ++ "\n" ++ indent ++
      "]"
  | .object [] => "\x7b\x7d"
  | .object (m :: ms) =>
    "\x7b\n" ++ String.intercalate ",\n" (prettyMembers (indent ++ "  ") (m :: ms)) ++ "\n" ++
      indent ++ "\x7d"

def prettyItems (indent : String) : List Json → List String
  | [] => []
  | j :: js => (indent ++ pretty indent j) :: prettyItems indent js

def prettyMembers (indent : String) : List (String × Json) → List String
  | [] => []
  | (k, j) :: js => (indent ++ quote k ++ ": " ++ pretty indent j) :: prettyMembers indent js

end

end ClientGen.Json
