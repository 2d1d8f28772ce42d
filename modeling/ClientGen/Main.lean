import ClientGen.Files.Basic
import ClientGen.Program

/-!
The program itself: the commands over the real file system, with standard output, the console log on
standard error, and an exit code.
-/

namespace ClientGen

namespace IoFault

def ofCode (code : UInt32) (text : String) : IoFault :=
  match code.toNat with
  | 2 => notFound
  | 17 => alreadyExists
  | 20 => notDirectory
  | 21 => isDirectory
  | 36 => nameTooLong
  | _ => other text

def ofError (e : IO.Error) : IoFault :=
  match e with
  | .noFileOrDirectory .. => notFound
  | .alreadyExists .. => alreadyExists
  | .inappropriateType _ code text | .invalidArgument _ code text
  | .permissionDenied _ code text => ofCode code text
  | e => other (toString e)

end IoFault

def attempt {α : Type} (act : IO α) : IO (Except IoFault α) := do
  try pure (.ok (← act))
  catch e => pure (.error (IoFault.ofError e))

instance : Files IO where
  isPresent path := do
    match ← attempt (IO.FS.Handle.mk path .read) with
    | .error .notFound => pure false
    | _ => pure true
  -- Only a directory has an entry for itself.
  isDirectory path := do
    match ← attempt (IO.FS.Handle.mk (path ++ "/.") .read) with
    | .ok _ => pure true
    | .error _ => pure false
  read path := attempt (IO.FS.readBinFile path)
  createDirectory path := attempt (IO.FS.createDir path)
  write path content := attempt (IO.FS.writeBinFile path content)

def errorLines (chain : List Link) : List String :=
  match chain.map Link.message with
  | [] => []
  | [message] => ["Error: " ++ message]
  | [message, cause] => ["Error: " ++ message, "", "Caused by:", "    " ++ cause]
  | message :: causes =>
    ["Error: " ++ message, "", "Caused by:"] ++
      causes.zipIdx.map fun (cause, i) => "    " ++ toString i ++ ": " ++ cause

def helpLines : List String :=
  ["Generate typed REST client classes",
    "",
    "Usage: cgraml [--log-level LEVEL] generate [-s SOURCE] [-o OUTPUT] [-p PACKAGE]",
    "         [-f java|json] [-c CONFIG] [--strict] [--dry-run]",
    "       cgraml [--log-level LEVEL] check [-s SOURCE] [-p PACKAGE] [-c CONFIG]"]

end ClientGen

open ClientGen in
def main (arguments : List String) : IO UInt32 := do
  match CommandLine.parse arguments with
  | .error fault =>
    IO.eprintln ("error: " ++ fault.message)
    pure 2
  | .ok .help =>
    helpLines.forM IO.println
    pure 0
  | .ok .version =>
    IO.println "cgraml 0.3.0"
    pure 0
  | .ok (.run command options) =>
    let execution ← Program.run command options (← IO.getEnv "RUST_LOG")
    execution.log.forM fun e => IO.eprintln e.consoleLine
    execution.lines.forM IO.println
    (execution.error.map errorLines).getD [] |>.forM IO.eprintln
    pure execution.exitCode
