import PatternFactory.FileTree.Basic

/-!
# File systems

`FileSystem m` says that programs in `m` can work with files.  A `Disk` is such a world: a file tree
in which it is laid down beforehand which operations go wrong, and how.
-/

namespace PatternFactory

/-- Programs in `m` can work with files. -/
class FileSystem (m : Type → Type) where
  /-- Does the path name lead to a directory? -/
  isDirectory : PathName → m Bool
  /-- The regular files at any depth below a directory, in any order. -/
  filesBelow : PathName → m (Except FileError (List PathName))
  /-- The text of a file. -/
  read : PathName → m (Except FileError String)
  makeDirectory : PathName → m (Except FileError Unit)
  /-- Puts a text into a file, and it is on the disk when this succeeds.  When it fails, the file
  may hold something else. -/
  write : PathName → String → m (Except FileError Unit)
  /-- Gives a file another name. -/
  rename : PathName → PathName → m (Except FileError Unit)
  /-- Removes a file. -/
  remove : PathName → m (Except FileError Unit)

/-- Something that goes wrong. -/
structure Mishap where
  error : FileError
  /-- What is left in the file that was to be written, if it got as far as that. -/
  left : Option Content
  deriving DecidableEq, Repr

/-- A file tree, and what is going to go wrong. -/
structure Disk where
  tree : FileTree
  /-- What goes wrong in the coming operations that make something, the next one first. -/
  mishaps : List (Option Mishap)
  deriving DecidableEq, Repr

namespace Disk

/-- The disk with a tree on which nothing goes wrong. -/
def ofTree (t : FileTree) : Disk := ⟨t, []⟩

/-- Keeps the result of an operation on the tree. -/
def keep (r : Except FileError FileTree) (d : Disk) : Except FileError Unit × Disk :=
  match r with
  | .ok t => (.ok (), { d with tree := t })
  | .error e => (.error e, d)

/-- Does an operation, unless it is to go wrong.  `spoilt` is the tree then. -/
def attempt (op : FileTree → Except FileError FileTree) (spoilt : Mishap → FileTree → FileTree) :
    StateM Disk (Except FileError Unit) := fun d =>
  match d.mishaps with
  | [] => d.keep (op d.tree)
  | none :: rest => keep (op d.tree) { d with mishaps := rest }
  | some m :: rest => (.error m.error, ⟨spoilt m d.tree, rest⟩)

/-- The tree after the file was not written as it should. -/
def spoilFile (p : PathName) (m : Mishap) (t : FileTree) : FileTree :=
  match m.left with
  | none => t
  | some c => (t.put p c).toOption.getD t

instance : FileSystem (StateM Disk) where
  isDirectory p := return (← get).tree.isDirectory p
  filesBelow p := return (← get).tree.filesBelow p
  read p := return (← get).tree.read p
  makeDirectory p := attempt (·.makeDirectory p) fun _ t => t
  write p text := attempt (·.put p (.text text)) (spoilFile p)
  rename p q := attempt (·.rename p q) fun _ t => t
  remove p := fun d => d.keep (d.tree.remove p)

end Disk

end PatternFactory
