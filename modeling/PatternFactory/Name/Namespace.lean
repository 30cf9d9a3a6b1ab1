/-!
# Namespaces

A namespace is the list of names that lead to a module.  It is written with `::` or `.` between the
names; on reading, any run of the characters `:` and `.` separates two names, so that a segment is
never empty and holds neither of them.
-/

namespace PatternFactory

/-- Does the character separate the names of a path? -/
def isSeparator (c : Char) : Bool := c = ':' || c = '.'

/-- The nonempty pieces of a text between separators. -/
def splitName (text : String) : List String :=
  go [] text.toList
where
  /-- The piece that `piece` begins, reversed, unless it is empty. -/
  flush (piece : List Char) : List String :=
    if piece.isEmpty then [] else [String.ofList piece.reverse]
  go (piece : List Char) : List Char → List String
    | [] => flush piece
    | c :: cs => if isSeparator c then flush piece ++ go [] cs else go (c :: piece) cs

/-- The names that lead to a module, from the outermost to the innermost. -/
structure Namespace where
  segments : List String
  deriving DecidableEq, Repr, Inhabited

namespace Namespace

/-- The namespace of the outermost module. -/
def root : Namespace := ⟨[]⟩

/-- The namespace with the given names, each of which may be a path itself. -/
def ofSegments (names : List String) : Namespace := ⟨names.flatMap splitName⟩

/-- Reads a namespace from its written form. -/
def parse (path : String) : Namespace := ofSegments [path]

/-- Is it the outermost namespace? -/
def isRoot (ns : Namespace) : Bool := ns.segments.isEmpty

/-- The namespace of a module inside. -/
def child (ns : Namespace) (name : String) : Namespace := ofSegments (ns.segments ++ [name])

/-- The names with a separator between them. -/
def join (ns : Namespace) (separator : String) : String := separator.intercalate ns.segments

/-- The written form. -/
def text (ns : Namespace) : String := ns.join "::"

instance : ToString Namespace := ⟨text⟩

/-- Namespaces are ordered by their names, the outermost first. -/
instance : Ord Namespace := ⟨fun a b => compare a.segments b.segments⟩

end Namespace

end PatternFactory
