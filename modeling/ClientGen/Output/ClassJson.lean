import ClientGen.Class.Basic
import ClientGen.Json.Printer

/-!
Classes as JSON. Nothing of a class is left out but names and descriptions that it does not have.
-/

namespace ClientGen

def Visibility.toJson (v : Visibility) : Json := .text v.keyword

def Field.toJson (f : Field) : Json :=
  .object
    ([("name", .text f.name), ("type", .text f.type), ("visibility", f.visibility.toJson),
      ("collection", .bool f.collection)] ++
      (f.serializedName.map fun name => ("serialized_name", Json.text name)).toList ++
      (f.description.map fun text => ("description", Json.text text)).toList)

mutual

def Expr.toJson : Expr → Json
  | .this => .object [("kind", .text "this")]
  | .null => .object [("kind", .text "null")]
  | .field name => .object [("kind", .text "field"), ("name", .text name)]
  | .param name => .object [("kind", .text "variable"), ("name", .text name)]
  | .staticCall owner method args =>
    .object [("kind", .text "static_call"), ("class", .text owner), ("method", .text method),
      ("args", .array (Expr.allToJson args))]
  | .call receiver method args =>
    .object [("kind", .text "call"), ("receiver", receiver.toJson), ("method", .text method),
      ("args", .array (Expr.allToJson args))]

def Expr.allToJson : List Expr → List Json
  | [] => []
  | e :: es => e.toJson :: Expr.allToJson es

end

def Statement.toJson : Statement → Json
  | assign field value =>
    .object [("assign", .object [("field", .text field), ("value", value.toJson)])]
  | returns value => .object [("return", value.toJson)]

def Method.toJson (m : Method) : Json :=
  .object [("name", .text m.name), ("return_type", (m.returnType.map Json.text).getD .null),
    ("visibility", m.visibility.toJson), ("parameters", .array (m.parameters.map Field.toJson)),
    ("body", .array (m.body.map Statement.toJson))]

def ClassDecl.toJson (c : ClassDecl) : Json :=
  .object [("package_name", .text c.packageName), ("class_name", .text c.className),
    ("documentation", .text c.documentation),
    ("fields", .array (c.fields.toList.map Field.toJson)),
    ("methods", .array (c.methods.map Method.toJson)),
    ("interfaces", .array (c.interfaces.map Json.text))]

def ClassDecl.dump (c : ClassDecl) : String := c.toJson.pretty "" ++ "\n"

end ClientGen
