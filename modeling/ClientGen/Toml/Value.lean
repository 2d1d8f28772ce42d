import ClientGen.Decode
import ClientGen.Toml.Scalar

/-!
TOML values, and tables as they grow while a text is read.
-/

namespace ClientGen

namespace Toml

/-- What brought a table into being, on which it depends what may still be added to it. -/
inductive Origin
  /-- A longer header. -/
  | implied
  | dottedKey
  | header
  | inlineTable
deriving DecidableEq

end Toml

inductive Toml
  | text (s : String)
  | scalar (s : Toml.Scalar)
  | array (items : List Toml)
  | table (origin : Toml.Origin) (entries : List (String × Toml))
  /-- The tables of repeated double-bracket headers. -/
  | tables (items : List Toml)

namespace Toml

abbrev Entries : Type := List (String × Toml)

def set? (key : String) (v : Toml) (es : Entries) : Option Entries :=
  if (es.lookup key).isSome then none else some (es ++ [(key, v)])

/-- Changes the table that a path leads to, making the tables on the way as they are missing. A
dotted path enters no table that has a header, and ends in no table that a header implied. -/
def within? (dotted : Bool) : List String → (Entries → Option Entries) → Entries → Option Entries
  | [], change, es => change es
  | key :: rest, change, es =>
    match es.lookup key with
    | none => do
      let inner ← within? dotted rest change []
      some (es ++ [(key, .table (if dotted then .dottedKey else .implied) inner)])
    | some (.table origin inner) =>
      if origin = .inlineTable ∨ (dotted ∧ origin = .header) ∨
          (dotted ∧ rest = [] ∧ origin = .implied) then none
      else do
        let inner ← within? dotted rest change inner
        some (Dict.put key (.table origin inner) es)
    | some (.tables items) =>
      match items.reverse with
      | .table origin inner :: before =>
        if dotted && rest = [] then none
        else do
          let inner ← within? dotted rest change inner
          some (Dict.put key (.tables (.table origin inner :: before).reverse) es)
      | _ => none
    | some _ => none

def setPath? (path : List String) (v : Toml) (es : Entries) : Option Entries := do
  let key ← path.getLast?
  within? true path.dropLast (set? key v) es

def open? (path : List String) (es : Entries) : Option Entries := do
  let key ← path.getLast?
  within? false path.dropLast (fun es =>
    match es.lookup key with
    | none => some (es ++ [(key, .table .header [])])
    | some (.table .implied inner) => some (Dict.put key (.table .header inner) es)
    | some _ => none) es

def openNext? (path : List String) (es : Entries) : Option Entries := do
  let key ← path.getLast?
  within? false path.dropLast (fun es =>
    match es.lookup key with
    | none => some (es ++ [(key, .tables [.table .header []])])
    | some (.tables items) => some (Dict.put key (.tables (items ++ [.table .header []])) es)
    | some _ => none) es

def items? : Toml → Option (List Toml)
  | array items | tables items => some items
  | _ => none

/-- A date or time is seen as a table with its text under this key. -/
def momentKey : String := "$__toml_private_datetime"

def entries? : Toml → Option Entries
  | table _ entries => some entries
  | scalar (.moment m) => some [(momentKey, text m.text)]
  | _ => none

mutual

/-- Whether a value that nobody asks for can be passed over: every number in it can be held. -/
def isReadable : Toml → Bool
  | scalar .outOfRange => false
  | text _ | scalar _ => true
  | array items | tables items => areReadable items
  | table _ entries => haveReadable entries

def areReadable : List Toml → Bool
  | [] => true
  | v :: rest => isReadable v && areReadable rest

def haveReadable : Entries → Bool
  | [] => true
  | (_, v) :: rest => isReadable v && haveReadable rest

end

/-- The given fields of a record. What it does not know has to be readable, except what an array
lists after its last field. -/
def fields? (keys : List String) (v : Toml) : Option Entries :=
  match entries? v with
  | some entries =>
    let (known, unknown) := entries.partition fun (k, _) => keys.contains k
    if haveReadable unknown then some known else none
  | none => (items? v).map fun items => keys.zip items

instance : Structured Toml where
  isNull _ := false
  text?
    | .text s => some s
    | _ => none
  items? := items?
  entries? := entries?
  fields? := fields?

end Toml

end ClientGen
