import ClientGen.Diagnostics.Event
import ClientGen.Diagnostics.Pattern

/-!
The lines of the console: which events have one, and what it says. A filter is a list of directives, separated by commas: a level for
every target, a target with all its events, or `target=level`. A target may be followed by a field
in brackets and braces, and then only events with that field are meant. Of the directives that mean
an event the one with the longest target decides, of several one that names a field, and of equal
ones the last.

A directive may also name a span, or a value of a field. No event of the generator is inside a span,
and values are only compared in spans, so such a directive lets nothing through.

In the line of an event, characters that could steer a terminal are written as escapes; tabs and
line breaks stay.
-/

namespace ClientGen

structure Directive where
  target : String
  /-- Only events with this field are meant. -/
  field : Option String := none
  level : Level

structure ConsoleFilter where
  directives : List Directive

namespace ConsoleFilter

/-- A level by its name, in any case, or by its number, from off to trace. -/
def level? (s : List Char) : Option Level :=
  let digits := if s.head? = some '+' then s.tail else s
  if digits ≠ [] ∧ digits.all Char.isDigit then
    match digits.foldl (fun n c => n * 10 + (c.toNat - 48)) 0 with
    | 0 => some .off
    | 1 => some .error
    | 2 => some .warn
    | 3 => some .info
    | 4 => some .debug
    | 5 => some .trace
    | _ => none
  else
    match String.ofList (s.map Char.toLower) with
    | "" => some .error
    | "error" => some .error
    | "warn" => some .warn
    | "info" => some .info
    | "debug" => some .debug
    | "trace" => some .trace
    | "off" => some .off
    | _ => none

inductive Scan
  | start
  | name (first : Nat)
  | level (first : Nat)
  | span (first : Nat)
  | field (first : Nat)
  | fieldDone
  | bracketDone

structure Parsed where
  scan : Scan := .start
  target : List Char := []
  field : Option (List Char) := none
  /-- A span or the value of a field is asked for. -/
  spansOnly : Bool := false

def slice (s : List Char) (first last : Nat) : List Char := (s.drop first).take (last - first)

def Parsed.addField? (p : Parsed) (text : List Char) : Option Parsed :=
  if text = [] then none
  else
    match text.splitOn '=' with
    | name :: value :: _ =>
      if Pattern.isValue value then
        some { p with scan := .fieldDone, field := some name, spansOnly := true }
      else none
    | _ => some { p with scan := .fieldDone, field := some text }

def Parsed.step? (whole : List Char) (p : Parsed) (i : Nat) (c : Char) : Option Parsed :=
  match p.scan with
  | .start =>
    if c = '[' then some { p with scan := .span (i + 1) }
    else if c = '-' ∨ c = ':' ∨ c = '_' ∨ Text.isAlphanumeric c then some { p with scan := .name i }
    else none
  | .name first =>
    if c = '=' then some { p with scan := .level (i + 1), target := slice whole first i }
    else if c = '[' then some { p with scan := .span (i + 1), target := slice whole first i }
    else some p
  | .level _ => some p
  | .span first =>
    if c = ']' then some { p with scan := .bracketDone, spansOnly := true }
    else if c = '\x7b' then
      some { p with scan := .field (i + 1), spansOnly := slice whole first i ≠ [] }
    else some p
  | .field first => if c = '\x7d' then p.addField? (slice whole first i) else some p
  | .fieldDone => if c = ']' then some { p with scan := .bracketDone } else none
  | .bracketDone => if c = '=' then some { p with scan := .level (i + 1) } else none

/-- What a part says at a level; nothing, where it is about spans. -/
def Parsed.directives (p : Parsed) (l : Level) : List Directive :=
  if p.spansOnly then [] else [⟨String.ofList p.target, p.field.map String.ofList, l⟩]

def directives? (part : List Char) : Option (List Directive) := do
  let indexed := (Text.trim part).zipIdx
  let p ← indexed.foldlM (fun (p : Parsed) (c, i) => p.step? part i c) {}
  match p.scan with
  | .name first =>
    let text := part.drop first
    match level? text with
    | some l => some (p.directives l)
    | none => some ({ p with target := text }.directives .trace)
  | .level first =>
    match part.drop first with
    | [] => some (p.directives .trace)
    | text => (level? text).map p.directives
  | .bracketDone => some (p.directives .trace)
  | _ => none

def parse? (s : String) : Option ConsoleFilter := do
  let parts := (s.toList.splitOn ',').filter (· ≠ [])
  let directives ← parts.mapM directives?
  some ⟨directives.flatten⟩

def ofLevel (l : Level) : ConsoleFilter := ⟨[{ target := "", level := l }]⟩

def choose (text : Option String) (l : Level) : ConsoleFilter :=
  (text.bind parse?).getD (ofLevel l)

/-- Every event has this field and no other. -/
def eventField : String := "message"

def Directive.covers (d : Directive) (e : Event) : Bool :=
  d.target.toList.isPrefixOf e.target.toList && d.field.all (· = eventField)

def Directive.isVaguer (d other : Directive) : Bool :=
  d.target.length < other.target.length ||
    (d.target.length = other.target.length && d.field.isNone && other.field.isSome)

def deciding? (f : ConsoleFilter) (e : Event) : Option Directive :=
  (f.directives.filter fun d => Directive.covers d e).foldl
    (fun best d =>
      match best with
      | some b => if Directive.isVaguer d b then some b else some d
      | none => some d)
    none

def shows (f : ConsoleFilter) (e : Event) : Bool :=
  match f.deciding? e with
  | some d => decide (d.level ≤ e.level)
  | none => false

end ConsoleFilter

namespace Event

def consoleChar (c : Char) : List Char :=
  match c with
  | '\x07' => ['\\', 'x', '0', '7']
  | '\x08' => ['\\', 'x', '0', '8']
  | '\x0c' => ['\\', 'x', '0', 'c']
  | '\x1b' => ['\\', 'x', '1', 'b']
  | '\x7f' => ['\\', 'x', '7', 'f']
  | c =>
    if 0x80 ≤ c.toNat ∧ c.toNat ≤ 0x9f then
      ['\\', 'u', '\x7b'] ++ Nat.toDigits 16 c.toNat ++ ['\x7d']
    else [c]

def consoleLine (e : Event) : String :=
  e.level.name ++ " " ++ String.ofList (e.message.toList.flatMap consoleChar)

end Event

end ClientGen
