import PatternFactory.Failure

/-!
# File trees

A file tree says which places hold a regular file, with what in it, and which are directories.  A
path name is followed piece by piece: each piece but the last has to be a directory, and the pieces
themselves decide which error comes first.  What is above the root of the tree does not exist.
-/

namespace PatternFactory

/-- What a regular file holds. -/
inductive Content where
  | text (s : String)
  /-- Bytes that are no text. -/
  | bytes (bs : List UInt8)
  deriving DecidableEq, Repr

namespace Content

/-- The content that consists of the given bytes. -/
def ofBytes (bs : List UInt8) : Content :=
  match String.fromUTF8? ⟨bs.toArray⟩ with
  | some s => text s
  | none => bytes bs

end Content

/-- What is at a place. -/
inductive Entry where
  | directory
  | file (content : Content)
  deriving DecidableEq, Repr

/-- A place: the names on the way to it from the root of the tree. -/
abbrev Place := List String

/-- The places that hold something, each once.  The root is a directory and is not listed. -/
structure FileTree where
  entries : List (Place × Entry)
  deriving DecidableEq, Repr

namespace FileTree

/-- The tree of which only the root is there. -/
def empty : FileTree := ⟨[]⟩

/-- What is at a place. -/
def entry? (t : FileTree) (place : Place) : Option Entry :=
  if place = [] then some .directory
  else (t.entries.find? fun e => e.1 = place).map Prod.snd

/-- What the regular file at a place holds, if there is one. -/
def content? (t : FileTree) (place : Place) : Option Content :=
  match t.entry? place with
  | some (.file c) => some c
  | _ => none

/-- The tree without what is at a place. -/
def erase (t : FileTree) (place : Place) : FileTree := ⟨t.entries.filter fun e => e.1 ≠ place⟩

/-- The tree with something at a place. -/
def insert (t : FileTree) (place : Place) (e : Entry) : FileTree :=
  ⟨(t.erase place).entries ++ [(place, e)]⟩

/-! ### Following path names -/

/-- The largest number of bytes in a name. -/
def nameLimit : Nat := 255

/-- The largest number of bytes in a path name. -/
def pathLimit : Nat := 4095

/-- Does a place in the tree have to be a directory, and is it one? -/
def checkDirectory (t : FileTree) (place : Place) : Except FileError Unit :=
  match t.entry? place with
  | some .directory => .ok ()
  | some (.file _) => .error .notDirectory
  | none => .error .notFound

/-- Follows one piece of a path name. -/
def descend (t : FileTree) (place : Place) (piece : String) : Except FileError Place := do
  t.checkDirectory place
  match PathName.ofPiece? piece with
  | none => .ok place
  | some .parent => if place = [] then .error .notFound else .ok place.dropLast
  | some part =>
    if nameLimit < part.text.utf8ByteSize then .error .nameTooLong
    else .ok (place ++ [part.text])

/-- Follows pieces of a path name from the root. -/
def follow (t : FileTree) (pieces : List String) : Except FileError Place :=
  pieces.foldlM t.descend []

/-- The pieces of a path name that can be followed. -/
def piecesOf (p : PathName) : Except FileError (List String) :=
  if p.text.toList.contains '\x00' then .error .nulInName
  else if p.text.isEmpty || p.isAbsolute then .error .notFound
  else if pathLimit < p.text.utf8ByteSize then .error .nameTooLong
  else .ok (PathName.pieces p.text.toList)

/-- The place that a path name leads to. -/
def locate (t : FileTree) (p : PathName) : Except FileError Place := do
  t.follow (← piecesOf p)

/-- The place that a path name leads to if slashes at its end do not count. -/
def locateNew (t : FileTree) (p : PathName) : Except FileError Place := do
  t.follow ((← piecesOf p).reverse.dropWhile fun piece => piece = "").reverse

/-! ### Operations -/

/-- Does the path name lead to a directory? -/
def isDirectory (t : FileTree) (p : PathName) : Bool :=
  match t.locate p with
  | .ok place => t.entry? place = some .directory
  | .error _ => false

/-- The text of a file. -/
def read (t : FileTree) (p : PathName) : Except FileError String := do
  match t.entry? (← t.locate p) with
  | some (.file (.text s)) => .ok s
  | some (.file (.bytes _)) => .error .notText
  | some .directory => .error .isDirectory
  | none => .error .notFound

/-- The regular files at any depth below a directory, with their paths under its path name. -/
def filesBelow (t : FileTree) (p : PathName) : Except FileError (List PathName) := do
  let root ← t.locate p
  return t.entries.filterMap fun
    | (place, .file _) =>
      if root.isPrefixOf place then some (p.joinAll (place.drop root.length)) else none
    | _ => none

/-- Makes a directory. -/
def makeDirectory (t : FileTree) (p : PathName) : Except FileError FileTree := do
  let place ← t.locateNew p
  match t.entry? place with
  | some _ => .error .alreadyExists
  | none => .ok (t.insert place .directory)

/-- Puts something into a file, which is made if it is not there. -/
def put (t : FileTree) (p : PathName) (c : Content) : Except FileError FileTree := do
  let place ← t.locate p
  match t.entry? place with
  | some .directory => .error .isDirectory
  | _ => .ok (t.insert place (.file c))

/-- Gives a file another name, in place of the file that may have that name. -/
def rename (t : FileTree) (p q : PathName) : Except FileError FileTree := do
  let source ← t.locate p
  let target ← t.locate q
  match t.entry? source, t.entry? target with
  | none, _ => .error .notFound
  | some .directory, _ => .error .isDirectory
  | some (.file _), some .directory => .error .isDirectory
  | some (.file c), _ => .ok ((t.erase source).insert target (.file c))

/-- Removes a file. -/
def remove (t : FileTree) (p : PathName) : Except FileError FileTree := do
  let place ← t.locate p
  match t.entry? place with
  | none => .error .notFound
  | some .directory => .error .isDirectory
  | some (.file _) => .ok (t.erase place)

/-! ### Views -/

/-- Is the place a directory with nothing in it? -/
def isEmptyDirectory (t : FileTree) (place : Place) : Bool :=
  t.entry? place = some .directory && !t.entries.any fun e => e.1.dropLast = place

/-- The regular files and the empty directories below the root. -/
def leaves (t : FileTree) : List (Place × Entry) :=
  t.entries.filter fun e => e.2 ≠ .directory || t.isEmptyDirectory e.1

end FileTree

end PatternFactory
