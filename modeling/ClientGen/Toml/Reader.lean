import ClientGen.Toml.Text
import ClientGen.Toml.Value

/-!
Reading a TOML text: lines that open tables and lines that set keys. Every reader takes some of the
text, so its length bounds the work.
-/

namespace ClientGen.Toml

mutual

def value? (fuel depth : Nat) (s : List Char) : Option (Toml × List Char) :=
  match fuel with
  | 0 => none
  | fuel + 1 =>
    match s with
    | '"' :: _ | '\'' :: _ => (string? s).map fun (t, rest) => (.text t, rest)
    | '[' :: rest =>
      match depth with
      | 0 => none
      | depth + 1 => (arrayItems? fuel depth [] rest).map fun (items, rest) => (.array items, rest)
    | '\x7b' :: rest =>
      match depth with
      | 0 => none
      | depth + 1 =>
        (tableEntries? fuel depth [] rest).map fun (es, rest) => (.table .inlineTable es, rest)
    | _ => (Scalar.read? s).map fun (v, rest) => (.scalar v, rest)

def arrayItems? (fuel depth : Nat) (seen : List Toml) (s : List Char) :
    Option (List Toml × List Char) :=
  match fuel with
  | 0 => none
  | fuel + 1 =>
    match skipLines s.length s with
    | ']' :: rest => some (seen.reverse, rest)
    | s => do
      let (v, rest) ← value? fuel depth s
      match skipLines rest.length rest with
      | ',' :: rest => arrayItems? fuel depth (v :: seen) rest
      | ']' :: rest => some ((v :: seen).reverse, rest)
      | _ => none

def tableEntries? (fuel depth : Nat) (seen : Entries) (s : List Char) :
    Option (Entries × List Char) :=
  match fuel with
  | 0 => none
  | fuel + 1 =>
    match skipLines s.length s with
    | '\x7d' :: rest => some (seen, rest)
    | s => do
      let (seen, rest) ← entry? fuel depth seen s
      match skipLines rest.length rest with
      | ',' :: rest => tableEntries? fuel depth seen rest
      | '\x7d' :: rest => some (seen, rest)
      | _ => none

def entry? (fuel depth : Nat) (es : Entries) (s : List Char) : Option (Entries × List Char) :=
  match fuel with
  | 0 => none
  | fuel + 1 => do
    let (path, rest) ← key? maxDepth s
    match skipLines rest.length rest with
    | '=' :: rest =>
      let (v, rest) ← value? fuel depth (skipLines rest.length rest)
      let es ← setPath? path v es
      some (es, rest)
    | _ => none

end

/-- The whole text so far, and the path of the table that keys go into. -/
structure Reading where
  root : Entries := []
  current : List String := []

def statement? (r : Reading) (s : List Char) : Option (Reading × List Char) :=
  match s with
  | '[' :: '[' :: rest => do
    let (path, rest) ← key? maxDepth rest
    match rest with
    | ']' :: ']' :: rest => some ({ root := ← openNext? path r.root, current := path }, rest)
    | _ => none
  | '[' :: rest => do
    let (path, rest) ← key? maxDepth rest
    match rest with
    | ']' :: rest => some ({ root := ← open? path r.root, current := path }, rest)
    | _ => none
  | _ => do
    let (path, rest) ← key? maxDepth s
    match rest with
    | '=' :: rest =>
      let (v, rest) ← value? (rest.length + 2) maxDepth (skipSpaces rest)
      some ({ r with root := ← within? false r.current (setPath? path v) r.root }, rest)
    | _ => none

def statements? (fuel : Nat) (r : Reading) (s : List Char) : Option Entries :=
  match fuel with
  | 0 => none
  | fuel + 1 =>
    match skipLines s.length s with
    | [] => some r.root
    | s => do
      let (r, rest) ← statement? r s
      statements? fuel r (← lineEnd? rest)

/-- A byte order mark at the front is skipped. -/
def read? (s : String) : Option Toml :=
  let text :=
    match s.toList with
    | '\ufeff' :: rest => rest
    | cs => cs
  (statements? (text.length + 1) {} text).map (.table .header)

end ClientGen.Toml
