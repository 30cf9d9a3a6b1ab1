import PatternFactory.FileTree.System
import PatternFactory.Generation.Run

/-!
# Units in files

A unit is written to a file of its own below a root.  Its text first goes into a temporary file,
which then takes the place of the unit's file; so the latter never holds a part of the text.  On
every failure the temporary file is removed.  A name can be emitted once only.
-/

namespace PatternFactory

/-- The ending of temporary files. -/
def temporaryExtension : String := "rs.tmp"

namespace PathName

/-- The path name and all its parents. -/
def lineage (p : PathName) : List PathName := p.ancestors (p.text.length + 1)

/-- The path name of the temporary file for a file. -/
def temporary (p : PathName) : PathName := p.withExtension temporaryExtension

end PathName

section

variable {m : Type → Type} [Monad m] [FileSystem m]

/-- Makes a directory, unless there is one already. -/
def ensureDirectory (p : PathName) : m (Except FileError Unit) := do
  match ← FileSystem.makeDirectory p with
  | .ok () => return .ok ()
  | .error e => if ← FileSystem.isDirectory p then return .ok () else return .error e

/-- Makes the first of the directories, each of which is the parent of the one before, and as many
parents as are missing. -/
def makeLineage : List PathName → m (Except FileError Unit)
  | [] => return .error (.other "failed to create whole tree")
  | p :: parents => do
    if p.text.isEmpty then return .ok ()
    match ← FileSystem.makeDirectory p with
    | .ok () => return .ok ()
    | .error .notFound =>
      match ← makeLineage parents with
      | .error e => return .error e
      | .ok () => ensureDirectory p
    | .error e => if ← FileSystem.isDirectory p then return .ok () else return .error e

/-- Makes a directory and the parents that are missing. -/
def makeDirectories (p : PathName) : m (Except FileError Unit) := makeLineage p.lineage

/-- Makes the directory that a file is to be in. -/
def makeParents (p : PathName) : m (Except FileError Unit) :=
  match p.parent? with
  | some parent => makeDirectories parent
  | none => return .ok ()

/-- Puts a text into a temporary file and moves that to its place. -/
def replaceFile (p : PathName) (text : String) : m (Except FileError Unit) := do
  match ← FileSystem.write p.temporary text with
  | .error e => return .error e
  | .ok () => FileSystem.rename p.temporary p

/-- Writes a file as a whole, or leaves what was there. -/
def writeUnit (p : PathName) (text : String) : m (Except FileError Unit) := do
  match ← makeParents p with
  | .error e => return .error e
  | .ok () =>
    match ← replaceFile p text with
    | .ok () => return .ok ()
    | .error e =>
      let _ ← FileSystem.remove p.temporary
      return .error e

/-- Emits units into files below `root`; the state holds the names that are emitted. -/
def fileEmitter (root : PathName) : Emitter (StateT (List QualifiedName) m) := fun name text => do
  if (← get).contains name then return .error (.alreadyEmitted name)
  match ← (writeUnit (unitPath root name) text : m (Except FileError Unit)) with
  | .error e => return .error e
  | .ok () =>
    modify (· ++ [name])
    return .ok ()

end

end PatternFactory
