import QueryTemplate.Program

/-!
# The executable

Reads the files and the variables that the arguments lead to, runs the program on them, and
prints what it leaves.
-/

namespace QueryTemplate

/-- The fault behind a code of the system, which may be given as a negative number. -/
def FileFault.ofCode (details : String) (code : UInt32) : FileFault :=
  match code.toInt32.toInt.natAbs with
  | 2 => .notFound
  | 13 => .other "Permission denied" 13
  | 20 => .notDirectory
  | 21 => .isDirectory
  | 36 => .nameTooLong
  | 40 => .other "Too many levels of symbolic links" 40
  | n => .other details n

def FileFault.ofError : IO.Error → FileFault
  | .noFileOrDirectory _ code details => .ofCode details code
  | .inappropriateType _ code details => .ofCode details code
  | .invalidArgument _ code details => .ofCode details code
  | .permissionDenied _ code details => .ofCode details code
  | .resourceExhausted _ code details => .ofCode details code
  | .illegalOperation code details => .ofCode details code
  | .otherError code details => .ofCode details code
  | error => .other (toString error) 0

def readText (path : String) : IO (Except FileFault String) := do
  if path.toList.contains '\x00' then return .error .nulInName
  try
    let bytes ← IO.FS.readBinFile path
    match String.fromUTF8? bytes with
    | some text => return .ok text
    | none => return .error .notText
  catch error => return .error (.ofError error)

def Command.paths : Command → List String
  | help _ => []
  | render r =>
    match r.template with
    | .inline _ => [r.config]
    | .file path => [r.config, path]

end QueryTemplate

open QueryTemplate in
def main (arguments : List String) : IO UInt32 := do
  let arguments := "sqltmpl" :: arguments
  let paths := match Command.ofArguments arguments with
    | .ok command => command.paths
    | .error _ => []
  let texts ← paths.mapM fun path => return (path, ← readText path)
  let names := (texts.filterMap fun (_, text) => text.toOption).flatMap
    (Config.variableNames .standard)
  let values ← names.mapM fun name => return (name, ← IO.getEnv name)
  let text (path : String) : Except FileFault String :=
    (texts.lookup path).getD (.error .notFound)
  let isPresent (path : String) : Bool :=
    match text path with
    | .ok _ | .error .isDirectory | .error .notText => true
    | .error _ => false
  let outcome := runProgram .standard ⟨isPresent, text⟩ (fun name => (values.lookup name).join)
    arguments
  IO.print outcome.printed
  match outcome.failure with
  | none => return 0
  | some failure =>
    IO.eprintln failure.message
    return 1
