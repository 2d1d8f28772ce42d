import ClientGen.Class.Field
import ClientGen.GenError
import ClientGen.Json.Value
import ClientGen.Naming

/-!
Target types of schema type names, and the typed fields of schema properties.

Values arrive as JSON and may be absent, so every schema type maps to a reference type.
-/

namespace ClientGen

def modelPackage : String := "model"

def parametersPackage : String := "parameters"

def servicePackage : String := "service"

def genericType : String := "Object"

/-- Pairs of schema type and target type; the first pair for a schema type counts. -/
structure TypeTable where
  entries : List (String × String)

namespace TypeTable

def primitives : List (String × String) :=
  [("string", "String"), ("integer", "Integer"), ("number", "Double"), ("boolean", "Boolean"),
    ("date", "java.util.Date"), ("array", "java.util.List<Object>"), ("object", genericType),
    ("any", genericType)]

def builtin : TypeTable := ⟨primitives⟩

def insert (t : TypeTable) (schema target : String) : TypeTable :=
  ⟨(schema, target) :: t.entries⟩

def withOverrides (overrides : List (String × String)) : TypeTable :=
  overrides.foldl (fun t (schema, target) => t.insert schema target) builtin

def modelType (package schema : String) : String :=
  package ++ "." ++ modelPackage ++ "." ++ Naming.capitalize schema

def registerModel (t : TypeTable) (package schema : String) : TypeTable :=
  t.insert schema (modelType package schema)

def lookup? (t : TypeTable) (schema : String) : Option String := t.entries.lookup schema

def resolve (t : TypeTable) (schema : String) : String := (t.lookup? schema).getD genericType

def collectionOf (element : String) : String := "java.util.List<" ++ element ++ ">"

@[simp]
theorem lookup?_insert (t : TypeTable) (schema target name : String) :
    (t.insert schema target).lookup? name =
      if name = schema then some target else t.lookup? name :=
  Dict.lookup_cons ..

/-- A reference wins over a type; of a list of types the first counts that is not `null`. -/
def declaredType? (property : Json) : Option String :=
  match (property.get? "$ref").bind Json.text? with
  | some name => some name
  | none =>
    match property.get? "type" with
    | some (.text name) => some name
    | some (.array types) => (types.filterMap Json.text?).find? (· ≠ "null")
    | _ => none

def propertyType (t : TypeTable) (property : Json) : String × Bool :=
  match declaredType? property with
  | some "array" =>
    let element := ((property.get? "items").bind declaredType?).map t.resolve
    (collectionOf (element.getD genericType), true)
  | some name => (t.resolve name, false)
  | none => (genericType, false)

def propertyField (t : TypeTable) (entity name : String) (property : Json) :
    Except GenError Field :=
  match property.members? with
  | none => .error (.invalidSchema entity (.propertyNotObject name))
  | some _ =>
    let fieldName := Naming.fieldName name
    if fieldName = "" then .error (.invalidSchema entity (.propertyUnnamed name))
    else
      let (type, collection) := t.propertyType property
      let field : Field :=
        { name := fieldName, type, collection
          description := (property.get? "description").bind Json.text? }
      .ok (field.withSerializedName name)

end TypeTable

end ClientGen
