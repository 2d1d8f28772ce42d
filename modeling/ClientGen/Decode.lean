import ClientGen.Dict
import ClientGen.Json.Value

/-!
Records read from structured data of any format. A record is written with its keys, or as a list of
its fields in order, of which the last may be missing. Keys that a record does not know are skipped;
what they may hold is for the format to say.
-/

namespace ClientGen

class Structured (ν : Type) where
  isNull : ν → Bool
  text? : ν → Option String
  items? : ν → Option (List ν)
  /-- The entries of a table, in order of writing. -/
  entries? : ν → Option (List (String × ν))
  /-- The given fields of a record. -/
  fields? : List String → ν → Option (List (String × ν))

namespace Decode

variable {ν α : Type} [Structured ν]

def defaulted? (read : ν → Option α) (fields : List (String × ν)) (key : String) (default : α) :
    Option α :=
  match fields.lookup key with
  | some v => read v
  | none => some default

/-- A field that may be absent or null. -/
def optional? (read : ν → Option α) (fields : List (String × ν)) (key : String) :
    Option (Option α) :=
  match fields.lookup key with
  | some v => if Structured.isNull v then some none else (read v).map some
  | none => some none

def required? (read : ν → Option α) (fields : List (String × ν)) (key : String) : Option α :=
  (fields.lookup key).bind read

def list? (read : ν → Option α) (v : ν) : Option (List α) := do
  (← Structured.items? v).mapM read

def table? (read : ν → Option α) (v : ν) : Option (List (String × α)) := do
  (← Structured.entries? v).mapM fun (k, v) => (read v).map (k, ·)

end Decode

namespace Json.Tree

def keyed? (members : List (List Piece × Tree)) : Option (List (String × Tree)) :=
  members.mapM fun (key, t) => (string? key).map (·, t)

/-- A record names no field twice and lists no more fields than it has. -/
def fields? (keys : List String) : Tree → Option (List (String × Tree))
  | .array items => if items.length ≤ keys.length then some (keys.zip items) else none
  | .object members => do
    let known := (← keyed? members).filter fun (k, _) => keys.contains k
    if (known.map Prod.fst).Nodup then some known else none
  | _ => none

instance : Structured Tree where
  isNull
    | .null => true
    | _ => false
  text?
    | .text pieces => string? pieces
    | _ => none
  items?
    | .array items => some items
    | _ => none
  entries?
    | .object members => keyed? members
    | _ => none
  fields? := fields?

end Json.Tree

end ClientGen
