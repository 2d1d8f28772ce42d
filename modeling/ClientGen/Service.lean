import ClientGen.Class.Field
import ClientGen.Naming

/-!
REST services, their actions, and the response found at the end of a path of services.
-/

namespace ClientGen

inductive HttpMethod
  | get | post | put | patch | delete | head | options
deriving DecidableEq, Repr

namespace HttpMethod

def verb : HttpMethod → String
  | get => "get"
  | post => "post"
  | put => "put"
  | patch => "patch"
  | delete => "delete"
  | head => "head"
  | options => "options"

def name (m : HttpMethod) : String := m.verb.toUpper

def ofVerb? : String → Option HttpMethod
  | "get" => some get
  | "post" => some post
  | "put" => some put
  | "patch" => some patch
  | "delete" => some delete
  | "head" => some head
  | "options" => some options
  | _ => none

def parse? (s : String) : Option HttpMethod :=
  ofVerb? (String.ofList (s.toList.map Char.toLower))

end HttpMethod

inductive Response
  | scalar (schema : String)
  /-- The schema is that of the elements. -/
  | collection (schema : String)
deriving DecidableEq, Repr

namespace Response

/-- A declared collection wins; an empty name declares nothing. -/
def ofDeclared (schema collectionSchema : Option String) : Option Response :=
  match collectionSchema.filter (· ≠ ""), schema.filter (· ≠ "") with
  | some element, _ => some (.collection element)
  | none, some name => some (.scalar name)
  | none, none => none

def schema : Response → String
  | scalar name | collection name => name

end Response

structure Action where
  method : HttpMethod
  parameters : List Field := []
  response : Option Response := none
deriving DecidableEq

structure Service where
  uri : String
  description : Option String := none
  actions : List Action := []
deriving DecidableEq

namespace Service

def action? (s : Service) (m : HttpMethod) : Option Action := s.actions.find? (·.method = m)

def hasParameters (s : Service) : Bool := (s.action? .get).any (·.parameters ≠ [])

def typeName (s : Service) : String := Naming.typeName s.uri

/-- The service that a path leads to: one named like the whole path, and only if there is none,
one named like the last segment. -/
def select? (services : List Service) (path : List String) : Option Service := do
  let last ← path.getLast?
  let named := fun (name : String) => services.find? (·.typeName = name)
  named (Naming.typeName (String.intercalate "/" path)) <|> named (Naming.typeName last)

def responseAt (services : List Service) (path : List String) : Option Response := do
  let service ← select? services path
  let action ← service.action? .get
  action.response

end Service

end ClientGen
