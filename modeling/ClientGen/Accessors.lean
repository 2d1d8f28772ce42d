import ClientGen.Class.Basic
import ClientGen.Naming

/-!
Methods that read and write one field.
-/

namespace ClientGen

def Field.valueParameter (f : Field) : Field :=
  { name := f.name, type := f.type, collection := f.collection }

namespace Method

def getter (f : Field) : Method :=
  { name := Naming.getterName f.name
    returnType := some f.type
    body := [.returns (.field f.name)] }

def setter (f : Field) : Method :=
  { name := Naming.setterName f.name
    parameters := [f.valueParameter]
    body := [.assign f.name (.param f.name)] }

def fluent (className : String) (f : Field) : Method :=
  { name := Naming.fluentName f.name
    returnType := some className
    parameters := [f.valueParameter]
    body := [.assign f.name (.param f.name), .returns .this] }

end Method

end ClientGen
