import ClientGen.Decode

/-!
Settings that shape the generated classes, and how they are read.
-/

namespace ClientGen

structure Settings where
  /-- First paragraph of the documentation of every class. -/
  docHeader : String := "Generated by cgraml."
  /-- Simple name of the class that navigation starts from. -/
  apiMapClass : String := "ApiMapService"
  /-- Static method that gives its instance. -/
  apiMapAccessor : String := "instance"
  /-- Method that passes a parameters object along a chain of calls. -/
  parametersMethod : String := "withParameters"
  /-- Method that ends a chain of calls. -/
  invokeMethod : String := "httpGet"
  modelInterfaces : List String := []
  parametersInterfaces : List String := []
  /-- Target types by schema type, sorted by schema type. -/
  typeOverrides : List (String × String) := []
deriving DecidableEq, Repr

namespace Settings

variable {ν : Type} [Structured ν]

def keys : List String :=
  ["doc_header", "api_map_class", "api_map_accessor", "parameters_method", "invoke_method",
    "model_interfaces", "parameters_interfaces", "type_overrides"]

def read? (v : ν) : Option Settings := do
  let fields ← Structured.fields? keys v
  let d : Settings := {}
  let text := Decode.defaulted? Structured.text? fields
  let texts := Decode.defaulted? (Decode.list? Structured.text?) fields
  some {
    docHeader := ← text "doc_header" d.docHeader
    apiMapClass := ← text "api_map_class" d.apiMapClass
    apiMapAccessor := ← text "api_map_accessor" d.apiMapAccessor
    parametersMethod := ← text "parameters_method" d.parametersMethod
    invokeMethod := ← text "invoke_method" d.invokeMethod
    modelInterfaces := ← texts "model_interfaces" d.modelInterfaces
    parametersInterfaces := ← texts "parameters_interfaces" d.parametersInterfaces
    typeOverrides := Dict.sortedOfList
      (← Decode.defaulted? (Decode.table? Structured.text?) fields "type_overrides" []) }

end Settings

/-- Settings as a JSON text; an empty text stands for the defaults. -/
def Settings.ofJson? (bytes : List UInt8) : Option Settings :=
  if bytes = [] then some {} else (Json.Tree.read? bytes).bind Settings.read?

end ClientGen
