import PatternFactory.FileTree.System
import PatternFactory.Generation.Run

/-!
# Source trees

The sources below a root are the regular files with the extension `rs` that no glob leaves out.  A
glob is held against the path of a file, and against that path below the root.
-/

namespace PatternFactory

/-- The extension of source files. -/
def sourceExtension : String := "rs"

/-- Is the file at this path a source that no glob leaves out? -/
def isSource (root : PathName) (globs : List Glob) (path : PathName) : Bool :=
  let relative := (path.below? root).getD path
  path.extension? = some sourceExtension
    && !globs.any fun g => g.matches relative || g.matches path

/-- The sources among some files, in the order of their paths. -/
def selectSources (root : PathName) (globs : List Glob) (files : List PathName) : List PathName :=
  (files.filter (isSource root globs)).mergeSort fun a b => (compare a b).isLE

section

variable {m : Type → Type} [Monad m] [FileSystem m]

/-- The paths of the sources below a root.  The globs are read first. -/
def findSources (root : PathName) (exclude : List String) :
    m (Except Failure (List PathName)) := do
  match Config.readGlobs exclude with
  | .error fault => return .error (.badConfig (.badGlob fault))
  | .ok globs =>
    if !(← FileSystem.isDirectory root) then return .error (.noSourceRoot root)
    match ← FileSystem.filesBelow root with
    | .error e => return .error (.unreadableTree root e)
    | .ok files => return .ok (selectSources root globs files)

/-- The text of a source. -/
def readText? (path : PathName) : m (Except Failure String) := do
  match ← FileSystem.read path with
  | .error e => return .error (.unreadableSource path e)
  | .ok text => return .ok text

/-- The texts of sources; the first that cannot be read is reported. -/
def readTexts : List PathName → m (Except Failure (List (PathName × String)))
  | [] => return .ok []
  | p :: ps => do
    match ← readText? p with
    | .error e => return .error e
    | .ok text =>
      match ← readTexts ps with
      | .error e => return .error e
      | .ok rest => return .ok ((p, text) :: rest)

/-- The source with this text. -/
def sourceOf (root path : PathName) (text : String) : Except Failure SourceFile :=
  readSource path (modulePath root path) text

/-- Reads a source. -/
def loadSource (root path : PathName) : m (Except Failure SourceFile) := do
  return (← readText? path).bind (sourceOf root path)

/-- Reads sources.  No text is parsed before all are read. -/
def loadSources (root : PathName) (paths : List PathName) :
    m (Except Failure (List SourceFile)) := do
  return (← readTexts paths).bind (·.mapM fun (path, text) => sourceOf root path text)

end

end PatternFactory
