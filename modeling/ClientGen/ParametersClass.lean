import ClientGen.Accessors
import ClientGen.Session

/-!
Parameters classes, made from the query parameters of a service's GET action: a private field with
a getter and a fluent method for every parameter. There are no setters; an instance is put together
once, through its fluent methods.
-/

namespace ClientGen

namespace ParametersClass

def start (settings : Settings) (package : String) (service : Service) : ClassDecl :=
  { packageName := package ++ "." ++ parametersPackage
    className := service.typeName ++ "Parameters"
    documentation := settings.docHeader
    interfaces := settings.parametersInterfaces }

def repeated (service : Service) (parameter : String) : Event :=
  ⟨.warn, Target.parameters,
    "Duplicate parameter '" ++ parameter ++ "' on GET " ++ service.uri ++ "; keeping the first"⟩

def addParameter (service : Service) (c : ClassDecl) (parameter : Field) : Build ClassDecl := do
  let (added, c) := c.tryAddField { parameter with visibility := .priv }
  if !added then Build.log (repeated service parameter.name)
  pure c

def accessors (c : ClassDecl) : List Method :=
  c.fields.toList.flatMap fun f => [.getter f, .fluent c.className f]

def parsed (c : ClassDecl) (entity : String) : Event :=
  ⟨.info, Target.parameters,
    "Parsed parameters class " ++ c.canonicalName ++ " for " ++ entity ++ " (" ++
      toString c.fields.size ++ " parameters)"⟩

def parse (package entity : String) (service : Service) : Build ClassDecl := do
  let empty := start (← Build.session).settings package service
  Build.ensureNew empty.canonicalName
  match service.action? .get with
  | none => Build.fail (.missingGetAction empty.canonicalName service.uri)
  | some action =>
    if action.parameters = [] then
      Build.fail (.emptyParameters empty.canonicalName service.uri)
    let withFields ← action.parameters.foldlM (addParameter service) empty
    let c := withFields.addMethods (accessors withFields)
    Build.register c.canonicalName
    Build.log (parsed c entity)
    pure c

end ParametersClass

end ClientGen
