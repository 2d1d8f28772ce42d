import ClientGen.Class.Basic
import ClientGen.Session
import ClientGen.Text.Quoted

/-!
Navigation methods of a class. A relation names a path of services, and yields two methods of one
name: one takes nothing, the other takes the parameters object of the last service.

A segment with a placeholder takes an argument from the field of the owning class with the longest
name that, capitalized, ends the segment's type name; without such a field the argument is null.
-/

namespace ClientGen

/-- Of the fields whose capitalized name ends `typeName` one with the longest name, the first of
several. -/
def longestSuffixField? (fields : List Field) (typeName : String) : Option Field :=
  (fields.filter fun f => (Naming.capitalize f.name).toList.isSuffixOf typeName.toList).foldl
    (fun best f =>
      match best with
      | some b => if f.name.utf8ByteSize ≤ b.name.utf8ByteSize then some b else some f
      | none => some f)
    none

structure NavigationPair where
  /-- Without parameters. -/
  derived : Method
  /-- With the parameters object given by the caller. -/
  explicit : Method

namespace Navigation

def segmentArgument? (fields : List Field) (segment : String) : Option Expr :=
  if Naming.hasPlaceholder segment then
    match longestSuffixField? fields (Naming.typeName segment) with
    | some f => some (.call (.field f.name) "toString" [])
    | none => some .null
  else none

def segmentMethod (segment : String) : String :=
  Naming.decapitalize (Naming.typeName segment)

def root (settings : Settings) (package : String) : Expr :=
  .staticCall (package ++ "." ++ servicePackage ++ "." ++ settings.apiMapClass)
    settings.apiMapAccessor []

def chain (settings : Settings) (package : String) (fields : List Field) (path : List String) :
    Expr :=
  path.foldl
    (fun e segment =>
      .call e (segmentMethod segment) (segmentArgument? fields segment).toList)
    (root settings package)

def parametersClass (package segment : String) : String :=
  package ++ "." ++ parametersPackage ++ "." ++ Naming.typeName segment ++ "Parameters"

def parametersArgument (package last : String) : Field :=
  { name := segmentMethod last, type := parametersClass package last }

def missingResponse (last : Option String) : Event :=
  let shown :=
    match last with
    | some segment => "Some(" ++ Text.quoted segment ++ ")"
    | none => "None"
  ⟨.debug, Target.navigation,
    "No response type declared for " ++ shown ++ "; using " ++ genericType⟩

def returnType (path : List String) : Build String := do
  let s ← Build.session
  match s.responseAt path with
  | some response => pure (s.types.resolve response.schema)
  | none =>
    Build.log (missingResponse path.getLast?)
    pure genericType

def methodName (relation : String) : String :=
  "get" ++ Naming.capitalize (Naming.fieldName relation)

def pair (settings : Settings) (package : String) (fields : List Field) (relation type : String)
    (path : List String) (last : String) : NavigationPair :=
  let start := chain settings package fields path
  let parameter := parametersArgument package last
  let explicit := Expr.call start settings.parametersMethod [.param parameter.name]
  let finish := fun (e : Expr) => [Statement.returns (.call e settings.invokeMethod [])]
  { derived := { name := methodName relation, returnType := some type, body := finish start }
    explicit :=
      { name := methodName relation, returnType := some type, parameters := [parameter]
        body := finish explicit } }

def synthesized (owner : ClassDecl) (method : String) (path : List String) : Event :=
  ⟨.debug, Target.navigation,
    "Synthesized " ++ owner.className ++ "." ++ method ++ " over " ++ toString path.length ++
      " services"⟩

def synthesize (owner : ClassDecl) (package relation : String) (path : List String) :
    Build NavigationPair := do
  match path.getLast? with
  | none => Build.fail (.malformedLinkedData owner.canonicalName relation)
  | some last =>
    let settings := (← Build.session).settings
    let type ← returnType path
    let methods := pair settings package owner.fields.toList relation type path last
    Build.log (synthesized owner methods.derived.name path)
    pure methods

end Navigation

end ClientGen
