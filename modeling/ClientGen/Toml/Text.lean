import ClientGen.Json.Token

/-!
Blanks, comments, strings and keys of a TOML text. A reader gives what it read and the rest.
-/

namespace ClientGen.Toml

def isSpace (c : Char) : Bool := c == ' ' || c == '\t'

def isShown (c : Char) : Bool := c == '\t' || (0x20 ≤ c.toNat && c.toNat ≠ 0x7f)

def skipSpaces (s : List Char) : List Char := s.dropWhile isSpace

def lineBreak? : List Char → Option (List Char)
  | '\n' :: rest => some rest
  | '\r' :: '\n' :: rest => some rest
  | _ => none

def comment (s : List Char) : List Char :=
  match s with
  | '#' :: rest => rest.dropWhile isShown
  | _ => s

def lineEnd? (s : List Char) : Option (List Char) :=
  match comment (skipSpaces s) with
  | [] => some []
  | rest => lineBreak? rest

def skipLines (fuel : Nat) (s : List Char) : List Char :=
  match fuel with
  | 0 => s
  | fuel + 1 =>
    let rest := comment (skipSpaces s)
    match lineBreak? rest with
    | some rest => skipLines fuel rest
    | none => rest

def isScalarValue (n : Nat) : Bool := n < 0xd800 || (0xe000 ≤ n && n < 0x110000)

def hexDigit? (c : Char) : Option Nat :=
  if c.toNat < 0x80 then Json.Token.hexDigit? (UInt8.ofNat c.toNat) else none

inductive Mode
  | plain
  | escape
  | hex (left value : Nat)
  /-- After a backslash at the end of a line, and before that end if `before` holds. -/
  | folding (before : Bool)

def escape? : Char → Option (Mode × List Char)
  | 'b' => some (.plain, ['\x08'])
  | 't' => some (.plain, ['\t'])
  | 'n' => some (.plain, ['\n'])
  | 'f' => some (.plain, ['\x0c'])
  | 'r' => some (.plain, ['\r'])
  | 'e' => some (.plain, ['\x1b'])
  | '"' => some (.plain, ['"'])
  | '\\' => some (.plain, ['\\'])
  | 'x' => some (.hex 1 0, [])
  | 'u' => some (.hex 3 0, [])
  | 'U' => some (.hex 7 0, [])
  | _ => none

def hex? (left value : Nat) (c : Char) : Option (Mode × List Char) := do
  let value := value * 16 + (← hexDigit? c)
  match left with
  | left + 1 => some (.hex left value, [])
  | 0 => if isScalarValue value then some (.plain, [Char.ofNat value]) else none

def finish (seen : List Char) : String := String.ofList seen.reverse

def basic? (mode : Mode) (seen : List Char) : List Char → Option (String × List Char)
  | [] => none
  | c :: rest =>
    match mode with
    | .escape =>
      match escape? c with
      | some (mode, added) => basic? mode (added ++ seen) rest
      | none => none
    | .hex left value =>
      match hex? left value c with
      | some (mode, added) => basic? mode (added ++ seen) rest
      | none => none
    | .plain | .folding _ =>
      if c = '"' then some (finish seen, rest)
      else if c = '\\' then basic? .escape seen rest
      else if isShown c then basic? .plain (c :: seen) rest
      else none

def literal? (seen : List Char) : List Char → Option (String × List Char)
  | [] => none
  | c :: rest =>
    if c = '\'' then some (finish seen, rest)
    else if isShown c then literal? (c :: seen) rest
    else none

/-- Three quotes close a long string; one or two before them belong to it. -/
def close? (quote : Char) (seen : List Char) : List Char → Option (String × List Char)
  | a :: b :: rest =>
    if a = quote ∧ b = quote then
      match rest with
      | c :: d :: rest =>
        if c = quote ∧ d = quote then some (finish (quote :: quote :: seen), rest)
        else if c = quote then some (finish (quote :: seen), d :: rest)
        else some (finish seen, c :: d :: rest)
      | [c] => if c = quote then some (finish (quote :: seen), []) else some (finish seen, [c])
      | [] => some (finish seen, [])
    else none
  | _ => none

def isLone (c : Char) (rest : List Char) : Bool := c == '\r' && rest.head? ≠ some '\n'

def isBreak (c : Char) : Bool := c == '\n' || c == '\r'

def longBasic? (mode : Mode) (seen : List Char) : List Char → Option (String × List Char)
  | [] => none
  | c :: rest =>
    let plain := fun (_ : Unit) =>
      if c = '"' then
        match close? '"' seen rest with
        | some r => some r
        | none => longBasic? .plain (c :: seen) rest
      else if c = '\\' then longBasic? .escape seen rest
      else if isBreak c || isShown c then longBasic? .plain (c :: seen) rest
      else none
    if isLone c rest then none
    else
      match mode with
      | .plain => plain ()
      | .hex left value =>
        match hex? left value c with
        | some (mode, added) => longBasic? mode (added ++ seen) rest
        | none => none
      | .escape =>
        if isSpace c || c = '\r' then longBasic? (.folding true) seen rest
        else if c = '\n' then longBasic? (.folding false) seen rest
        else
          match escape? c with
          | some (mode, added) => longBasic? mode (added ++ seen) rest
          | none => none
      | .folding true =>
        if isSpace c || c = '\r' then longBasic? (.folding true) seen rest
        else if c = '\n' then longBasic? (.folding false) seen rest
        else none
      | .folding false =>
        if isSpace c || isBreak c then longBasic? (.folding false) seen rest
        else plain ()

def longLiteral? (seen : List Char) : List Char → Option (String × List Char)
  | [] => none
  | c :: rest =>
    if c = '\'' then
      match close? '\'' seen rest with
      | some r => some r
      | none => longLiteral? (c :: seen) rest
    else if isLone c rest then none
    else if isBreak c || isShown c then longLiteral? (c :: seen) rest
    else none

/-- A line break right after the opening quotes is not part of a long string. -/
def dropBreak (s : List Char) : List Char := (lineBreak? s).getD s

def string? : List Char → Option (String × List Char)
  | '"' :: '"' :: '"' :: rest => longBasic? .plain [] (dropBreak rest)
  | '\'' :: '\'' :: '\'' :: rest => longLiteral? [] (dropBreak rest)
  | '"' :: rest => basic? .plain [] rest
  | '\'' :: rest => literal? [] rest
  | _ => none

def isBareKeyChar (c : Char) : Bool := c.isAlphanum || c == '_' || c == '-'

def simpleKey? (s : List Char) : Option (String × List Char) :=
  match s with
  | '"' :: rest => basic? .plain [] rest
  | '\'' :: rest => literal? [] rest
  | _ =>
    let key := s.takeWhile isBareKeyChar
    if key = [] then none else some (String.ofList key, s.dropWhile isBareKeyChar)

/-- Arrays and inline tables nest at most this deep, and a key has at most this many parts. -/
def maxDepth : Nat := 80

def key? (most : Nat) (s : List Char) : Option (List String × List Char) :=
  match most with
  | 0 => none
  | most + 1 => do
    let (key, rest) ← simpleKey? (skipSpaces s)
    match skipSpaces rest with
    | '.' :: rest =>
      let (keys, rest) ← key? most rest
      some (key :: keys, rest)
    | rest => some ([key], rest)

end ClientGen.Toml
