import ClientGen.Document.Basic
import ClientGen.Session

/-!
Documents that passed validation, with their resources as services.
-/

namespace ClientGen

inductive DocumentError
  | unnamedSchema (name : String)
  | emptyUri
  | unnamedUri (uri : String)
  | duplicateUri (uri : String)
  | parameter (name verb uri : String) (cause : GenError)
deriving DecidableEq, Repr

def DocumentError.chain : DocumentError → List Link
  | unnamedSchema name => [.text ("Schema name '" ++ name ++ "' has no usable identifier")]
  | emptyUri => [.text "Resource URI cannot be empty"]
  | unnamedUri uri => [.text ("Resource URI '" ++ uri ++ "' has no usable identifier")]
  | duplicateUri uri => [.text ("Duplicate resource URI: " ++ uri)]
  | parameter name verb uri cause =>
    [.text ("Invalid query parameter '" ++ name ++ "' on " ++ verb ++ " " ++ uri),
      .text cause.message]

namespace Document

def checkSchemas : List (String × Json) → Except DocumentError Unit
  | [] => .ok ()
  | (name, _) :: rest =>
    if Naming.typeName name = "" then .error (.unnamedSchema name) else checkSchemas rest

def checkResources (seen : List String) : List Resource → Except DocumentError Unit
  | [] => .ok ()
  | r :: rest =>
    if Text.isBlank r.uri.toList then .error .emptyUri
    else if Naming.typeName r.uri = "" then .error (.unnamedUri r.uri)
    else if r.uri ∈ seen then .error (.duplicateUri r.uri)
    else checkResources (r.uri :: seen) rest

def validate (d : Document) : Except DocumentError Unit :=
  match checkSchemas d.schemas with
  | .error e => .error e
  | .ok () => checkResources [] d.resources

end Document

structure LoadedDocument where
  document : Document
  services : List Service
  types : TypeTable

namespace LoadedDocument

def typesOf (settings : Settings) (package : String) (d : Document) : TypeTable :=
  d.schemas.foldl (fun t (name, _) => t.registerModel package name)
    (.withOverrides settings.typeOverrides)

def parametersOf (types : TypeTable) (uri verb : String) :
    List (String × Json) → Except DocumentError (List Field)
  | [] => .ok []
  | (name, property) :: rest =>
    match types.propertyField uri name property with
    | .error e => .error (.parameter name verb uri e)
    | .ok f => (parametersOf types uri verb rest).map (f :: ·)

def responseOf (a : DeclaredAction) : Option Response :=
  a.responses.bind fun r => Response.ofDeclared r.schema r.collectionSchema

def unknownVerb (verb uri : String) : Event :=
  ⟨.warn, Target.loading, "Unknown HTTP verb '" ++ verb ++ "' on " ++ uri ++ "; skipping"⟩

/-- The actions under known verbs; the others are left out with a warning. -/
def actionsOf (types : TypeTable) (uri : String) :
    List (String × DeclaredAction) → List Event × Except DocumentError (List Action)
  | [] => ([], .ok [])
  | (verb, a) :: rest =>
    match HttpMethod.parse? verb with
    | none =>
      let (events, actions) := actionsOf types uri rest
      (unknownVerb verb uri :: events, actions)
    | some method =>
      match parametersOf types uri verb a.queryParameters with
      | .error e => ([], .error e)
      | .ok parameters =>
        let (events, actions) := actionsOf types uri rest
        (events, actions.map (⟨method, parameters, responseOf a⟩ :: ·))

def servicesOf (types : TypeTable) :
    List Resource → List Event × Except DocumentError (List Service)
  | [] => ([], .ok [])
  | r :: rest =>
    match actionsOf types r.uri r.actions with
    | (events, .error e) => (events, .error e)
    | (events, .ok actions) =>
      let (more, services) := servicesOf types rest
      (events ++ more, services.map (⟨r.uri, r.description, actions⟩ :: ·))

/-- Types refer to the overrides and to the model class of every schema of the document. -/
def load (d : Document) (settings : Settings) (package : String) :
    List Event × Except DocumentError LoadedDocument :=
  match d.validate with
  | .error e => ([], .error e)
  | .ok () =>
    let types := typesOf settings package d
    let (events, services) := servicesOf types d.resources
    (events, services.map fun services => { document := d, services, types })

def responseAt (l : LoadedDocument) (path : List String) : Option Response :=
  Service.responseAt l.services path

structure Inventory where
  schemas : Nat
  resources : Nat
  /-- The resources whose GET action has parameters. -/
  parametersClasses : Nat
  relations : Nat
deriving DecidableEq, Repr

def inventory (l : LoadedDocument) : Inventory :=
  { schemas := l.document.schemas.length
    resources := l.services.length
    parametersClasses := l.services.countP Service.hasParameters
    relations := l.document.relationCount }

end LoadedDocument

end ClientGen
