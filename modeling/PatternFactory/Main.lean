import PatternFactory.Command.Report

/-!
# The program

Runs a command line on the files of the machine.
-/

namespace PatternFactory

/-- An error of the operating system. -/
def FileError.ofSystem (e : IO.Error) : FileError :=
  match e with
  | .alreadyExists _ code text => .ofNumber code.toNat text
  | .otherError code text => .ofNumber code.toNat text
  | .resourceBusy code text => .ofNumber code.toNat text
  | .resourceVanished code text => .ofNumber code.toNat text
  | .unsupportedOperation code text => .ofNumber code.toNat text
  | .hardwareFault code text => .ofNumber code.toNat text
  | .unsatisfiedConstraints code text => .ofNumber code.toNat text
  | .illegalOperation code text => .ofNumber code.toNat text
  | .protocolError code text => .ofNumber code.toNat text
  | .timeExpired code text => .ofNumber code.toNat text
  | .interrupted _ code text => .ofNumber code.toNat text
  | .noFileOrDirectory _ code text => .ofNumber code.toNat text
  | .invalidArgument _ code text => .ofNumber code.toNat text
  | .permissionDenied _ code text => .ofNumber code.toNat text
  | .resourceExhausted _ code text => .ofNumber code.toNat text
  | .inappropriateType _ code text => .ofNumber code.toNat text
  | .noSuchThing _ code text => .ofNumber code.toNat text
  | .unexpectedEof => .other (toString e)
  | .userError text => .other text

/-- Runs an action and gives its error. -/
def attempted {α : Type} (action : IO α) : IO (Except FileError α) := do
  match ← action.toBaseIO with
  | .ok a => return .ok a
  | .error e => return .error (.ofSystem e)

/-- A path name of the machine. -/
def onMachine (p : PathName) : IO.FS.DirEntry := ⟨p.text, ""⟩

/-- The regular files at any depth below a directory. -/
partial def listFiles (p : PathName) : IO (List PathName) := do
  let mut files := []
  for entry in ← (onMachine p).root.readDir do
    let path := p.join entry.fileName
    match (← entry.path.symlinkMetadata).type with
    | .dir => files := files ++ (← listFiles path)
    | .file => files := files ++ [path]
    | _ => pure ()
  return files

/-- The text of a file. -/
def readFile (p : PathName) : IO (Except FileError String) := do
  match ← attempted (IO.FS.readBinFile p.text) with
  | .error e => return .error e
  | .ok bytes =>
    match String.fromUTF8? bytes with
    | some text => return .ok text
    | none => return .error .notText

instance : FileSystem IO where
  isDirectory p := (onMachine p).root.isDir
  filesBelow p := attempted (listFiles p)
  read := readFile
  makeDirectory p := attempted (IO.FS.createDir p.text)
  write p text := attempted (IO.FS.writeFile p.text text)
  rename p q := attempted (IO.FS.rename p.text q.text)
  remove p := attempted (IO.FS.removeFile p.text)

/-- The variable that names the directory for the units if the command line does not. -/
def outVariable : String := "PATGEN_OUT"

end PatternFactory

open PatternFactory in
/-- Runs the program and gives its exit code. -/
def main (args : List String) : IO UInt32 := do
  let report ← runProgram (← IO.getEnv outVariable) args
  IO.print report.output
  IO.eprint report.errors
  return report.exitCode.toUInt32
