import PatternFactory.Grammar.File
import PatternFactory.Name.Namespace
import PatternFactory.PathName

/-!
# Source files

A source file is read as a list of items.  Its path below the source root says which module it
holds: the directories and the name of the file, except that `mod` stands for its directory and
`lib` and `main` at the top stand for the root.
-/

namespace PatternFactory

/-- A source file that is read. -/
structure SourceFile where
  path : PathName
  «namespace» : Namespace
  items : List Item

namespace SourceFile

/-- Reads the text of a source file. -/
def parse (path : PathName) (ns : Namespace) (text : String) : Except SyntaxError SourceFile := do
  return ⟨path, ns, ← File.ofText text⟩

end SourceFile

/-- The plain names among the components of a path name. -/
def PathName.names (p : PathName) : List String :=
  p.components.filterMap fun
    | .name n => some n
    | _ => none

/-- The namespace of the module in the file `path` of a source tree under `root`. -/
def modulePath (root path : PathName) : Namespace :=
  let relative := (path.below? root).getD path
  let directories := (relative.parent?.map PathName.names).getD []
  let stem := relative.stem?.getD ""
  let isRootFile := directories.isEmpty && (stem = "lib" || stem = "main")
  .ofSegments (if stem = "mod" || isRootFile then directories else directories ++ [stem])

end PatternFactory
