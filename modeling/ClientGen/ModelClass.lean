import ClientGen.Accessors
import ClientGen.Navigation

/-!
Model classes, made from the schemas of a document: a field, getter, setter and fluent method for
every property, and a pair of navigation methods for every relation.
-/

namespace ClientGen

structure ModelSchema where
  description : Option String
  properties : List (String × Json)
  relations : List (String × Json)

namespace ModelSchema

def part (entity : String) (schema : Json) (key : String) :
    Except GenError (List (String × Json)) :=
  match schema.get? key with
  | none | some .null => .ok []
  | some (.object members) => .ok members
  | some _ => .error (.invalidSchema entity (.partNotObject key))

def read (entity : String) (schema : Json) : Except GenError ModelSchema := do
  match schema with
  | .object _ =>
    let properties ← part entity schema "properties"
    let relations ← part entity schema "$linkedData"
    pure { description := (schema.get? "description").bind Json.text?, properties, relations }
  | _ => throw (.invalidSchema entity .notObject)

end ModelSchema

namespace ModelClass

/-- The services of a relation: one or more, none of them empty. -/
def path? : Json → Option (List String)
  | .array (first :: rest) =>
    (first :: rest).mapM fun item => item.text?.filter (· ≠ "")
  | _ => none

def start (settings : Settings) (package entity : String) (description : Option String) :
    ClassDecl :=
  { packageName := package ++ "." ++ modelPackage
    className := Naming.capitalize entity
    documentation := settings.docHeader ++ (description.map ("\n\n" ++ ·)).getD ""
    interfaces := settings.modelInterfaces }

def withAccessors (c : ClassDecl) (f : Field) : ClassDecl :=
  (c.addField f).addMethods [.getter f, .setter f, .fluent c.className f]

def taken (c : ClassDecl) (property field : String) : Event :=
  ⟨.warn, Target.model,
    "Property '" ++ property ++ "' of " ++ c.canonicalName ++ " maps to existing field '" ++
      field ++ "'; skipping"⟩

def addProperty (entity : String) (c : ClassDecl) (property : String × Json) : Build ClassDecl := do
  let (name, schema) := property
  let f ← Build.ofExcept ((← Build.session).types.propertyField entity name schema)
  if c.fields.contains f.name then
    Build.log (taken c name f.name)
    pure c
  else pure (withAccessors c f)

def clashes (c : ClassDecl) (name : String) : Bool :=
  (c.methodsNamed name).any (·.arity = 0)

def clash (c : ClassDecl) (relation method : String) : Event :=
  ⟨.warn, Target.model,
    "Relation '" ++ relation ++ "' of " ++ c.canonicalName ++ " clashes with existing method " ++
      method ++ "(); both are kept"⟩

def addRelation (package : String) (c : ClassDecl) (relation : String × Json) :
    Build ClassDecl := do
  let (name, services) := relation
  match path? services with
  | none => Build.fail (.malformedLinkedData c.canonicalName name)
  | some path =>
    let methods ← Navigation.synthesize c package name path
    if clashes c methods.derived.name then Build.log (clash c name methods.derived.name)
    pure (c.addMethods [methods.derived, methods.explicit])

def parsed (c : ClassDecl) : Event :=
  ⟨.info, Target.model,
    "Parsed model class " ++ c.canonicalName ++ " (" ++ toString c.fields.size ++ " fields, " ++
      toString c.methods.length ++ " methods)"⟩

/-- The class of a schema. Nothing is registered unless all of it could be read. -/
def parse (package entity : String) (schema : Json) : Build ClassDecl := do
  let schema ← Build.ofExcept (ModelSchema.read entity schema)
  let empty := start (← Build.session).settings package entity schema.description
  Build.ensureNew empty.canonicalName
  let withFields ← schema.properties.foldlM (addProperty entity) empty
  let c ← schema.relations.foldlM (addRelation package) withFields
  Build.register c.canonicalName
  Build.log (parsed c)
  pure c

def parseText (package entity text : String) : Build ClassDecl :=
  match Json.ofString? text with
  | some schema => parse package entity schema
  | none => Build.fail (.invalidSchema entity .notJson)

end ModelClass

end ClientGen
