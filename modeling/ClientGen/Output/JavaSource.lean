import ClientGen.Class.Basic
import ClientGen.Json.Printer
import ClientGen.Text.Blank

/-!
Classes as Java source text.
-/

namespace ClientGen.JavaSource

def indent : String := "    "

mutual

def inline : Expr → String
  | .this => "this"
  | .null => "null"
  | .field name => "this." ++ name
  | .param name => name
  | .staticCall owner method args => owner ++ "." ++ method ++ "(" ++ arguments args ++ ")"
  | .call receiver method args => inline receiver ++ "." ++ method ++ "(" ++ arguments args ++ ")"

def arguments : List Expr → String
  | [] => ""
  | [e] => inline e
  | e :: es => inline e ++ ", " ++ arguments es

end

def chainRoot : Expr → Expr
  | .call receiver _ _ => chainRoot receiver
  | e => e

def chainCalls : Expr → List (String × List Expr)
  | .call receiver method args => chainCalls receiver ++ [(method, args)]
  | _ => []

/-- Two calls or more are written one to a line. -/
def expression (e : Expr) (margin : String) : String :=
  let calls := chainCalls e
  if calls.length < 2 then inline e
  else
    inline (chainRoot e) ++ String.join (calls.map fun (method, args) =>
      "\n" ++ margin ++ indent ++ "." ++ method ++ "(" ++ arguments args ++ ")")

def statement (margin : String) : Statement → String
  | .assign field value => "this." ++ field ++ " = " ++ expression value margin ++ ";"
  | .returns value => "return " ++ expression value margin ++ ";"

def escapedChar (c : Char) : List Char :=
  match c with
  | '"' => ['\\', '"']
  | '\\' => ['\\', '\\']
  | '\n' => ['\\', 'n']
  | '\r' => ['\\', 'r']
  | '\t' => ['\\', 't']
  | c => if Text.isControl c then ['\\', 'u', '0', '0'] ++ Json.hexByte c.toNat else [c]

def escaped (s : String) : String := String.ofList (s.toList.flatMap escapedChar)

/-- No comment ends inside the text. -/
def neutralized : List Char → List Char
  | '*' :: '/' :: rest => '*' :: '&' :: '#' :: '4' :: '7' :: ';' :: neutralized rest
  | c :: rest => c :: neutralized rest
  | [] => []

def docLine (margin : String) (line : List Char) : String :=
  let line := Text.trimRight (neutralized line)
  if line = [] then margin ++ " *\n" else margin ++ " * " ++ String.ofList line ++ "\n"

/-- A documentation comment; a blank text has none. -/
def docComment (margin text : String) : String :=
  if Text.isBlank text.toList then ""
  else
    margin ++ "/**\n" ++ String.join ((Text.lines text.toList).map (docLine margin)) ++ margin ++
      " */\n"

def fieldSource (f : Field) : String :=
  let annotation :=
    match f.serializedName with
    | some name => indent ++ "@SerializedName(\"" ++ escaped name ++ "\")\n"
    | none => ""
  ((f.description.map (docComment indent)).getD "") ++ annotation ++
    indent ++ f.visibility.keyword ++ " " ++ f.type ++ " " ++ f.name ++ ";\n"

def methodSource (m : Method) : String :=
  let parameters := m.parameters.map fun p => p.type ++ " " ++ p.name
  let margin := indent ++ indent
  indent ++ m.visibility.keyword ++ " " ++ m.returnType.getD "void" ++ " " ++ m.name ++ "(" ++
    String.intercalate ", " parameters ++ ") \x7b\n" ++
    String.join (m.body.map fun s => margin ++ statement margin s ++ "\n") ++ indent ++ "\x7d\n"

def imports (c : ClassDecl) : String :=
  if c.fields.toList.any (·.serializedName.isSome) then
    "import com.google.gson.annotations.SerializedName;\n\n"
  else ""

def implemented (c : ClassDecl) : String :=
  if c.interfaces = [] then "" else " implements " ++ String.intercalate ", " c.interfaces

def classSource (c : ClassDecl) : String :=
  "package " ++ c.packageName ++ ";\n\n" ++ imports c ++ docComment "" c.documentation ++
    "public class " ++ c.className ++ implemented c ++ " \x7b\n" ++
    String.join (c.fields.toList.map fun f => "\n" ++ fieldSource f) ++
    String.join (c.methods.map fun m => "\n" ++ methodSource m) ++ "\x7d\n"

end ClientGen.JavaSource
