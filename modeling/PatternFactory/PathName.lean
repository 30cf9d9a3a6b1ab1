/-!
# Path names

A path name is a text that names a place in a file tree.  Its components are what lies between the
slashes; a component `.` counts only at the very beginning.  Two path names with the same components
name the same place, and path names are ordered by their components, so that `a/b` comes before
`a.b`.
-/

namespace PatternFactory

/-- A component of a path name. -/
inductive PathPart where
  /-- The slash at the beginning of an absolute path. -/
  | root
  /-- A `.` at the beginning. -/
  | here
  /-- A `..`. -/
  | parent
  /-- A plain name. -/
  | name (text : String)
  deriving DecidableEq, Repr, Inhabited

namespace PathPart

/-- The kinds of components in their order. -/
def rank : PathPart → Nat
  | root => 0
  | here => 1
  | parent => 2
  | name _ => 3

/-- The text of a component. -/
def text : PathPart → String
  | root => "/"
  | here => "."
  | parent => ".."
  | name t => t

instance : Ord PathPart :=
  ⟨fun
    | name a, name b => compare a b
    | a, b => compare a.rank b.rank⟩

end PathPart

/-- A path name, given by its text. -/
structure PathName where
  text : String
  deriving DecidableEq, Repr, Inhabited

namespace PathName

/-- The pieces of a text between slashes, empty ones included. -/
def pieces : List Char → List String
  | [] => [""]
  | '/' :: cs => "" :: pieces cs
  | c :: cs =>
    match pieces cs with
    | p :: ps => (String.singleton c ++ p) :: ps
    | [] => [String.singleton c]

/-- What a path name begins with beside its plain pieces: a slash, a lone `.`, or nothing. -/
def lead (cs : List Char) : List PathPart × List Char :=
  match cs with
  | '/' :: rest => ([.root], rest)
  | ['.'] => ([.here], [])
  | '.' :: '/' :: rest => ([.here], '/' :: rest)
  | _ => ([], cs)

/-- The component that a piece stands for, if it counts. -/
def ofPiece? (piece : String) : Option PathPart :=
  if piece = "" || piece = "." then none
  else if piece = ".." then some .parent
  else some (.name piece)

/-- The components. -/
def components (p : PathName) : List PathPart :=
  let (front, body) := lead p.text.toList
  front ++ (pieces body).filterMap ofPiece?

/-- Do the path names name the same place? -/
def same (a b : PathName) : Bool := a.components == b.components

instance : Ord PathName := ⟨fun a b => compare a.components b.components⟩

/-- Does the path name begin at the root of the file tree? -/
def isAbsolute (p : PathName) : Bool := p.text.startsWith "/"

/-- The path name of `q` below `p`.  An absolute `q` stays as it is. -/
def join (p : PathName) (q : String) : PathName :=
  if q.startsWith "/" then ⟨q⟩
  else if p.text.isEmpty || p.text.endsWith "/" then ⟨p.text ++ q⟩
  else ⟨p.text ++ "/" ++ q⟩

/-- The path name of names below one another below `p`. -/
def joinAll (p : PathName) (qs : List String) : PathName := qs.foldl join p

/-- Does the piece count as a component? -/
def isPart (piece : String) : Bool := (ofPiece? piece).isSome

/-- The pieces up to the last one that counts. -/
def trimmed (ps : List String) : List String :=
  (ps.reverse.dropWhile fun p => !isPart p).reverse

/-- The path name without its last component, if it has one that is not the root. -/
def parent? (p : PathName) : Option PathName :=
  let (front, body) := lead p.text.toList
  let prefixText := String.join (front.map PathPart.text)
  match (trimmed (pieces body)).reverse with
  | _ :: before => some ⟨prefixText ++ "/".intercalate (trimmed before.reverse)⟩
  | [] => if front = [.here] then some ⟨""⟩ else none

/-- The last component, if it is a plain name. -/
def fileName? (p : PathName) : Option String :=
  match p.components.getLast? with
  | some (.name n) => some n
  | _ => none

/-- Splits a name at its last dot.  A dot at the beginning does not count. -/
def splitExtension (name : String) : String × Option String :=
  let rev := name.toList.reverse
  let ext := rev.takeWhile (· ≠ '.')
  match rev.drop ext.length with
  | '.' :: stem =>
    if stem.isEmpty then (name, none)
    else (String.ofList stem.reverse, some (String.ofList ext.reverse))
  | _ => (name, none)

/-- The last component without its extension. -/
def stem? (p : PathName) : Option String := p.fileName?.map fun n => (splitExtension n).1

/-- The extension of the last component. -/
def extension? (p : PathName) : Option String := p.fileName?.bind fun n => (splitExtension n).2

/-- The path name with another extension of its last component. -/
def withExtension (p : PathName) (ext : String) : PathName :=
  match p.fileName? with
  | none => p
  | some name =>
    let behind := (p.text.toList.reverse.takeWhile (· ≠ '/')).length
    let kept := String.ofList (p.text.toList.take (p.text.length - behind))
    ⟨kept ++ (splitExtension name).1 ++ "." ++ ext⟩

/-- The relative path name with the given components. -/
def ofParts (parts : List PathPart) : PathName :=
  match parts with
  | .root :: rest => ⟨"/" ++ "/".intercalate (rest.map PathPart.text)⟩
  | _ => ⟨"/".intercalate (parts.map PathPart.text)⟩

/-- What follows the components of `base` in `p`, if `p` begins with them. -/
def below? (p base : PathName) : Option PathName :=
  let b := base.components
  if b.isPrefixOf p.components then some (ofParts (p.components.drop b.length)) else none

/-- The path name and its parents, at most `count` of them. -/
def ancestors (p : PathName) : Nat → List PathName
  | 0 => []
  | n + 1 =>
    p :: match p.parent? with
      | some q => q.ancestors n
      | none => []

end PathName

end PatternFactory
