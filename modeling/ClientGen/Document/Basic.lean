import ClientGen.Decode

/-!
API documents: schemas and resources as they are declared.
-/

namespace ClientGen

structure DeclaredResponse where
  schema : Option String
  collectionSchema : Option String

structure DeclaredAction where
  /-- In document order. -/
  queryParameters : List (String × Json) := []
  responses : Option DeclaredResponse := none

structure Resource where
  uri : String
  description : Option String := none
  /-- By verb as it is written, sorted. -/
  actions : List (String × DeclaredAction) := []

structure Document where
  title : Option String := none
  baseUri : Option String := none
  /-- In document order. -/
  schemas : List (String × Json) := []
  resources : List Resource := []

namespace Document

open Json (Tree)

/-- Values by name in document order, nested `outer` containers deep in the document. -/
def readValues? (outer : Nat) (t : Tree) : Option (List (String × Json)) :=
  (Decode.table? (Json.ofTree? (Json.maxDepth - outer)) t).map Dict.ofList

def readResponse? (t : Tree) : Option DeclaredResponse := do
  let fields ← Structured.fields? ["schema", "collectionSchema"] t
  some {
    schema := ← Decode.optional? Structured.text? fields "schema"
    collectionSchema := ← Decode.optional? Structured.text? fields "collectionSchema" }

def readAction? (t : Tree) : Option DeclaredAction := do
  let fields ← Structured.fields? ["queryParameters", "responses"] t
  some {
    queryParameters := ← Decode.defaulted? (readValues? 6) fields "queryParameters" []
    responses := ← Decode.optional? readResponse? fields "responses" }

def readResource? (t : Tree) : Option Resource := do
  let fields ← Structured.fields? ["uri", "description", "actions"] t
  some {
    uri := ← Decode.required? Structured.text? fields "uri"
    description := ← Decode.optional? Structured.text? fields "description"
    actions := Dict.sortedOfList
      (← Decode.defaulted? (Decode.table? readAction?) fields "actions" []) }

def ofTree? (t : Tree) : Option Document := do
  let fields ← Structured.fields? ["title", "baseUri", "schemas", "resources"] t
  some {
    title := ← Decode.optional? Structured.text? fields "title"
    baseUri := ← Decode.optional? Structured.text? fields "baseUri"
    schemas := ← Decode.defaulted? (readValues? 2) fields "schemas" []
    resources := ← Decode.defaulted? (Decode.list? readResource?) fields "resources" [] }

def read? (bytes : List UInt8) : Option Document := (Tree.read? bytes).bind ofTree?

def relationCount (d : Document) : Nat :=
  (d.schemas.filterMap fun (_, schema) => (schema.get? "$linkedData").bind Json.members?).foldl
    (fun n relations => n + relations.length) 0

end Document

end ClientGen
