import ClientGen.Json.Token

/-!
A JSON text as it is written: strings keep their escapes, numbers their digits, and objects every
member. Nothing is demanded of a tree but the grammar, so parts that nobody reads may hold numbers
of any size, unpaired surrogates and any depth of nesting.
-/

namespace ClientGen.Json

inductive Tree
  | null
  | bool (b : Bool)
  | number (literal : String)
  | text (pieces : List Piece)
  | array (items : List Tree)
  | object (members : List (List Piece × Tree))

namespace Tree

/-- A container part way through; what it holds so far is kept reversed. -/
inductive Frame
  | items (seen : List Tree)
  | members (seen : List (List Piece × Tree))
  | member (seen : List (List Piece × Tree)) (key : List Piece)

inductive Awaits
  | value | valueOrClose | key | keyOrClose | colon | separator

inductive Progress
  | pending (awaits : Awaits) (frames : List Frame)
  | complete (t : Tree)

def deliver? (t : Tree) : List Frame → Option Progress
  | [] => some (.complete t)
  | .items seen :: outer => some (.pending .separator (.items (t :: seen) :: outer))
  | .member seen key :: outer => some (.pending .separator (.members ((key, t) :: seen) :: outer))
  | .members _ :: _ => none

def begin? (frames : List Frame) : Token → Option Progress
  | .openArray => some (.pending .valueOrClose (.items [] :: frames))
  | .openObject => some (.pending .keyOrClose (.members [] :: frames))
  | .null => deliver? .null frames
  | .bool b => deliver? (.bool b) frames
  | .number literal => deliver? (.number literal) frames
  | .text pieces => deliver? (.text pieces) frames
  | .closeArray | .closeObject | .comma | .colon => none

def close? (frames : List Frame) : Token → Option Progress
  | .closeArray =>
    match frames with
    | .items seen :: outer => deliver? (.array seen.reverse) outer
    | _ => none
  | .closeObject =>
    match frames with
    | .members seen :: outer => deliver? (.object seen.reverse) outer
    | _ => none
  | _ => none

def key? (frames : List Frame) : Token → Option Progress
  | .text key =>
    match frames with
    | .members seen :: outer => some (.pending .colon (.member seen key :: outer))
    | _ => none
  | _ => none

def Progress.step? : Progress → Token → Option Progress
  | .complete _, _ => none
  | .pending .value frames, t => begin? frames t
  | .pending .valueOrClose frames, t => close? frames t <|> begin? frames t
  | .pending .key frames, t => key? frames t
  | .pending .keyOrClose frames, t => close? frames t <|> key? frames t
  | .pending .colon frames, .colon => some (.pending .value frames)
  | .pending .colon _, _ => none
  | .pending .separator frames, .comma =>
    match frames with
    | .items _ :: _ => some (.pending .value frames)
    | .members _ :: _ => some (.pending .key frames)
    | _ => none
  | .pending .separator frames, t => close? frames t

def read? (bytes : List UInt8) : Option Tree := do
  let tokens ← Token.scan? bytes
  match ← tokens.foldlM Progress.step? (.pending .value []) with
  | .complete t => some t
  | .pending _ _ => none

end Tree

end ClientGen.Json
