import PatternFactory.Config.File
import PatternFactory.FileTree.System

/-!
# Finding the configuration

The configuration is in a file that is named, or in the nearest one of the directories at and above
a given one.  A file that can be read decides, even if it cannot be used.
-/

namespace PatternFactory

namespace Config

/-- The number of directories in which a configuration file is looked for. -/
def searchDepth : Nat := 10

/-- The paths at which a configuration file is looked for, the nearest one first. -/
def candidates (start : PathName) : List PathName :=
  (start.ancestors searchDepth).map (·.join configFileName)

section

variable {m : Type → Type} [Monad m] [FileSystem m]

/-- Reads a configuration file. -/
def load (path : PathName) : m (Except Failure Config) := do
  match ← FileSystem.read path with
  | .ok text => return parse text
  | .error e => return .error (.unreadableConfig path e)

/-- Reads the first configuration file that can be read; if there is none, nothing is set. -/
def searchIn : List PathName → m (Except Failure Config)
  | [] => return .ok standard
  | path :: paths => do
    match ← FileSystem.read path with
    | .ok text => return parse text
    | .error _ => searchIn paths

/-- Finds the configuration for a directory. -/
def search (start : PathName) : m (Except Failure Config) := searchIn (candidates start)

end

end Config

end PatternFactory
