import ClientGen.Files.Basic
import ClientGen.Generation
import ClientGen.Output.ClassJson
import ClientGen.Output.JavaSource

/-!
Emitters that write one file per class.
-/

namespace ClientGen

inductive OutputFormat
  | java | json
deriving DecidableEq, Repr

namespace OutputFormat

def name : OutputFormat → String
  | java => "java"
  | json => "json"

def ofName? : String → Option OutputFormat
  | "java" => some java
  | "json" => some json
  | _ => none

end OutputFormat

namespace Emitter

variable {m : Type → Type} [Monad m] [Files m]

def writeFile (directory name text : String) : m (Except EmitError Unit) := do
  match ← Files.createDirectories directory with
  | .error fault => pure (.error (.io fault))
  | .ok () =>
    match ← Files.write (Path.join directory name) text.toUTF8 with
    | .error fault => pure (.error (.io fault))
    | .ok () => pure (.ok ())

def packageDirectory (output packageName : String) : String :=
  Path.join output (packageName.map fun c => if c = '.' then '/' else c)

def java (output : String) : Emitter m := fun c =>
  if c.className = "" then
    pure (.error (.render ("class in package '" ++ c.packageName ++ "' has no name")))
  else
    writeFile (packageDirectory output c.packageName) (c.className ++ ".java")
      (JavaSource.classSource c)

def json (output : String) : Emitter m := fun c =>
  writeFile output (c.canonicalName ++ ".json") c.dump

def ofFormat (format : OutputFormat) (output : String) : Emitter m :=
  match format with
  | .java => java output
  | .json => json output

end Emitter

end ClientGen
