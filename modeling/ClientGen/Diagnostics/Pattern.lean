import ClientGen.Json.Token
import ClientGen.Text.Alphanumeric
import ClientGen.Text.Blank

/-!
Which texts are patterns for the values of event fields. A pattern is a regular expression: groups,
alternatives, bracketed classes and the marks `?`, `*` and `+`.

A pattern stands between braces, so it holds no closing brace, and a repetition by count cannot end.
Classes that need the tables of all scripts are not to be had, and neither is matching that ignores
case in all scripts.
-/

namespace ClientGen.Pattern

structure Flags where
  ignoresCase : Bool := false
  allScripts : Bool := true
  /-- Blanks and comments between the parts of the pattern are skipped. -/
  spaced : Bool := false

namespace Flags

def set (f : Flags) (on : Bool) : Char → Option Flags
  | 'i' => some { f with ignoresCase := on }
  | 'u' => some { f with allScripts := on }
  | 'x' => some { f with spaced := on }
  | 'm' | 's' | 'R' | 'U' => some f
  | _ => none

def foldsAllScripts (f : Flags) : Bool := f.ignoresCase && f.allScripts

def knows (f : Flags) (c : Char) : Bool := f.allScripts || decide (c.toNat < 0x80)

def skipBlanks (inComment : Bool) : List Char → List Char
  | [] => []
  | c :: rest =>
    if inComment then skipBlanks (c ≠ '\n') rest
    else if c = '#' then skipBlanks true rest
    else if Text.isBlankChar c then skipBlanks false rest
    else c :: rest

def skip (f : Flags) (s : List Char) : List Char := if f.spaced then skipBlanks false s else s

/-- The flags at the start of a group, up to the colon or bracket that ends them; what was read of
them is kept reversed. -/
def read? (f : Flags) (seen : List Char) (on : Bool) : List Char → Option (Flags × List Char)
  | [] => none
  | c :: rest =>
    if c = ':' then if seen.head? = some '-' then none else some (f, c :: rest)
    else if c = ')' then
      if seen = [] ∨ seen.head? = some '-' then none else some (f, c :: rest)
    else if c ∈ seen then none
    else if c = '-' then f.read? (c :: seen) false rest
    else
      match f.set on c with
      | some f => f.read? (c :: seen) on rest
      | none => none

end Flags

inductive Atom
  | literal (c : Char)
  | characters
  /-- A place between characters. -/
  | place

def hex? (f : Flags) (value : Nat) : Nat → List Char → Option (Char × List Char)
  | 0, s =>
    let c := Char.ofNat value
    if c.toNat = value ∧ f.knows c then some (c, s) else none
  | digits + 1, s =>
    match f.skip s with
    | c :: rest =>
      if c.toNat < 0x80 then
        match Json.Token.hexDigit? (UInt8.ofNat c.toNat) with
        | some d => hex? f (value * 16 + d) digits rest
        | none => none
      else none
    | [] => none

def escape? (f : Flags) : List Char → Option (Atom × List Char)
  | [] => none
  | c :: rest =>
    match c with
    | 'x' => (hex? f 0 2 rest).map fun (c, rest) => (.literal c, rest)
    | 'u' => (hex? f 0 4 rest).map fun (c, rest) => (.literal c, rest)
    | 'U' => (hex? f 0 8 rest).map fun (c, rest) => (.literal c, rest)
    | 'd' | 's' | 'w' => if f.allScripts then none else some (.characters, rest)
    | 'a' => some (.literal '\x07', rest)
    | 'f' => some (.literal '\x0c', rest)
    | 'n' => some (.literal '\n', rest)
    | 'r' => some (.literal '\r', rest)
    | 't' => some (.literal '\t', rest)
    | 'v' => some (.literal '\x0b', rest)
    | 'A' | 'z' => some (.place, rest)
    | 'b' | 'B' | '<' | '>' => if f.allScripts then none else some (.place, rest)
    | c => if c.toNat < 0x80 ∧ !c.isAlphanum then some (.literal c, rest) else none

def classAtom? (f : Flags) : List Char → Option (Atom × List Char)
  | [] => none
  | '\\' :: rest => escape? f rest
  | c :: rest => if f.knows c then some (.literal c, rest) else none

def classNames : List String :=
  ["alnum", "alpha", "ascii", "blank", "cntrl", "digit", "graph", "lower", "print", "punct", "space",
    "upper", "word", "xdigit"]

def namedClass? : List Char → Option (List Char)
  | ':' :: rest =>
    let rest := if rest.head? = some '^' then rest.tail else rest
    match rest.dropWhile (· ≠ ':') with
    | ':' :: ']' :: after =>
      if String.ofList (rest.takeWhile (· ≠ ':')) ∈ classNames then some after else none
    | _ => none
  | _ => none

/-- The beginning of a class after its bracket, where dashes and a closing bracket are literal. -/
def classOpen? (f : Flags) (s : List Char) : Option (List Char) :=
  let skipDashes := fun (s : List Char) => s.dropWhile fun c => c = '-' || f.spaced && c = ' '
  let first := fun (s : List Char) =>
    match s with
    | ']' :: rest => some rest
    | '-' :: _ => some (skipDashes s)
    | s => some s
  match f.skip s with
  | '^' :: rest => if f.allScripts then first (f.skip rest) else none
  | s => first s

def classEnd? (fuel : Nat) (f : Flags) (depth : Nat) (s : List Char) : Option (List Char) :=
  match fuel with
  | 0 => none
  | fuel + 1 =>
    match f.skip s with
    | [] => none
    | '[' :: rest =>
      match namedClass? rest with
      | some rest => classEnd? fuel f depth rest
      | none => (classOpen? f rest).bind (classEnd? fuel f (depth + 1))
    | ']' :: rest => if depth ≤ 1 then some rest else classEnd? fuel f (depth - 1) rest
    | '&' :: '&' :: rest | '-' :: '-' :: rest | '~' :: '~' :: rest => classEnd? fuel f depth rest
    | s => do
      let (atom, rest) ← classAtom? f s
      let single :=
        match atom with
        | .place => none
        | _ => classEnd? fuel f depth (f.skip rest)
      match f.skip rest with
      | '-' :: after =>
        match f.skip after with
        | ']' :: _ | '-' :: _ => single
        | after =>
          match atom, classAtom? f after with
          | .literal first, some (.literal last, rest) =>
            if first ≤ last then classEnd? fuel f depth rest else none
          | _, _ => none
      | _ => single

def charClass? (f : Flags) (s : List Char) : Option (List Char) :=
  if f.foldsAllScripts then none else (classOpen? f s).bind (classEnd? (s.length + 1) f 1)

def groupName? (names : List (List Char)) (s : List Char) : Option (List Char × List Char) :=
  let name := s.takeWhile (· ≠ '>')
  let isName :=
    match name with
    | [] => false
    | c :: rest =>
      (c = '_' || (Text.isAlphanumeric c && !c.isDigit)) &&
        rest.all fun c => c = '_' || c = '.' || c = '[' || c = ']' || Text.isAlphanumeric c
  match s.dropWhile (· ≠ '>') with
  | _ :: rest => if isName && !names.contains name then some (name, rest) else none
  | [] => none

structure Reading where
  flags : Flags := {}
  /-- The flags outside of the groups in progress, innermost first. -/
  outer : List Flags := []
  names : List (List Char) := []
  /-- There is something that a mark can repeat. -/
  repeatable : Bool := false

def Reading.group? (r : Reading) (s : List Char) : Option (Reading × List Char) :=
  let inside : Reading := { r with outer := r.flags :: r.outer, repeatable := false }
  let named := fun (s : List Char) =>
    (groupName? r.names s).map fun (name, rest) => ({ inside with names := name :: r.names }, rest)
  match r.flags.skip s with
  | '?' :: 'P' :: '<' :: rest => named rest
  | '?' :: '<' :: rest => named rest
  | '?' :: rest =>
    match r.flags.read? [] true rest with
    | some (flags, ':' :: rest) => some ({ inside with flags }, rest)
    | some (flags, _ :: rest) => some ({ r with flags, repeatable := false }, rest)
    | _ => none
  | s => some (inside, s)

def Reading.step? (r : Reading) (c : Char) (rest : List Char) : Option (Reading × List Char) :=
  let taken := fun (rest : List Char) => some ({ r with repeatable := true }, rest)
  let literal := fun (c : Char) (rest : List Char) =>
    if r.flags.foldsAllScripts || !r.flags.knows c then none else taken rest
  match c with
  | '(' => r.group? rest
  | ')' =>
    match r.outer with
    | [] => none
    | flags :: outer => some ({ r with flags, outer, repeatable := true }, rest)
  | '|' => some ({ r with repeatable := false }, rest)
  | '?' | '*' | '+' => if r.repeatable then taken rest else none
  | '\x7b' => none
  | '[' => (charClass? r.flags rest).bind taken
  | '.' => if r.flags.allScripts then taken rest else none
  | '^' | '$' => taken rest
  | '\\' =>
    match escape? r.flags rest with
    | some (.literal c, rest) => literal c rest
    | some (_, rest) => taken rest
    | none => none
  | c => literal c rest

def Reading.isComplete (fuel : Nat) (r : Reading) (s : List Char) : Bool :=
  match fuel with
  | 0 => false
  | fuel + 1 =>
    match r.flags.skip s with
    | [] => r.outer.isEmpty
    | c :: rest =>
      match r.step? c rest with
      | some (r, rest) => r.isComplete fuel rest
      | none => false

/-- A number with a plus sign, the one kind of value that a pattern could not stand for. -/
def isPositiveNumber : List Char → Bool
  | '+' :: s =>
    let digits := fun (s : List Char) => s ≠ [] && s.all Char.isDigit
    let isE := fun (c : Char) => c == 'e' || c == 'E'
    let mantissa := s.takeWhile fun c => !isE c
    let scale := s.dropWhile fun c => !isE c
    let exponent :=
      match scale.tail with
      | '+' :: rest | '-' :: rest => rest
      | rest => rest
    let places := mantissa.filter (· ≠ '.')
    ["inf", "infinity", "nan"].contains (String.ofList (s.map Char.toLower)) ||
      (digits places && mantissa.length ≤ places.length + 1 && (scale = [] || digits exponent))
  | _ => false

/-- Values that are numbers stand for themselves, and all others are patterns. -/
def isValue (s : List Char) : Bool :=
  isPositiveNumber s || Reading.isComplete (s.length + 1) {} s

end ClientGen.Pattern
