/-!
What can go wrong while a class is generated. Every error is fatal to its one class and to no other.
-/

namespace ClientGen

inductive IoFault
  | notFound
  | alreadyExists
  | notDirectory
  | isDirectory
  | nameTooLong
  | nulInName
  | notUtf8
  | other (text : String)
deriving DecidableEq, Repr

def IoFault.message : IoFault → String
  | notFound => "No such file or directory (os error 2)"
  | alreadyExists => "File exists (os error 17)"
  | notDirectory => "Not a directory (os error 20)"
  | isDirectory => "Is a directory (os error 21)"
  | nameTooLong => "File name too long (os error 36)"
  | nulInName => "file name contained an unexpected NUL byte"
  | notUtf8 => "stream did not contain valid UTF-8"
  | other text => text

inductive EmitError
  | io (fault : IoFault)
  | json (reason : String)
  | render (reason : String)
deriving DecidableEq, Repr

def EmitError.message : EmitError → String
  | io fault => "I/O error: " ++ fault.message
  | json reason => "JSON error: " ++ reason
  | render reason => "render error: " ++ reason

inductive SchemaFault
  | notJson
  | notObject
  | partNotObject (key : String)
  | propertyNotObject (name : String)
  | propertyUnnamed (name : String)
  | other (reason : String)
deriving DecidableEq, Repr

def SchemaFault.message : SchemaFault → String
  | notJson => "not a JSON text"
  | notObject => "resource description is not a JSON object"
  | partNotObject key => "'" ++ key ++ "' is not an object"
  | propertyNotObject name => "property '" ++ name ++ "' is not an object"
  | propertyUnnamed name => "property '" ++ name ++ "' has no usable identifier"
  | other reason => reason

inductive GenError
  | duplicateClass (canonical : String)
  | malformedLinkedData (canonical relation : String)
  | missingGetAction (canonical service : String)
  | emptyParameters (canonical service : String)
  | invalidSchema (entity : String) (fault : SchemaFault)
  | emission (canonical : String) (cause : EmitError)
deriving DecidableEq, Repr

namespace GenError

inductive Stage
  | parse | build
deriving DecidableEq, Repr

def stage : GenError → Stage
  | emission .. => .build
  | _ => .parse

def code : GenError → Nat
  | duplicateClass .. => 1
  | malformedLinkedData .. => 2
  | missingGetAction .. => 3
  | emptyParameters .. => 4
  | invalidSchema .. => 5
  | emission .. => 6

def subject : GenError → String
  | duplicateClass canonical | malformedLinkedData canonical _ | missingGetAction canonical _
  | emptyParameters canonical _ | emission canonical _ => canonical
  | invalidSchema entity _ => entity

def message : GenError → String
  | duplicateClass canonical => "class " ++ canonical ++ " was already generated before"
  | malformedLinkedData canonical relation =>
    "malformed $linkedData schema in " ++ canonical ++ ": relation '" ++ relation ++
      "' has no services"
  | missingGetAction canonical service =>
    "service " ++ service ++ " does not have a GET method (class " ++ canonical ++ ")"
  | emptyParameters canonical service =>
    "GET method of service " ++ service ++ " does not have any parameters (class " ++ canonical ++
      ")"
  | invalidSchema entity fault => "invalid schema for " ++ entity ++ ": " ++ fault.message
  | emission canonical cause => "failed to emit " ++ canonical ++ ": " ++ cause.message

end GenError

/-! The links of an error report, from what failed on the outside to its root cause. -/

inductive Link
  | text (s : String)
  /-- A text that is not JSON, or not of the form it should have. -/
  | json
  /-- A text that is not TOML, or not of the form it should have. -/
  | toml
deriving DecidableEq, Repr

def Link.message : Link → String
  | text s => s
  | json => "malformed JSON"
  | toml => "malformed TOML"

end ClientGen
