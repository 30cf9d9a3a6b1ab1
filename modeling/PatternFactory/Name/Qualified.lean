import PatternFactory.Name.Namespace

/-!
# Names of generated units

A unit is named after the declaration that it belongs to: the declared name without separators,
followed by a suffix.  The declared name `$` stands for no name at all, so that the suffix alone is
left.
-/

namespace PatternFactory

/-- A name in a namespace. -/
structure QualifiedName where
  «namespace» : Namespace
  name : String
  deriving DecidableEq, Repr, Inhabited

namespace QualifiedName

/-- The namespace and the name with a separator between all parts. -/
def joined (q : QualifiedName) (separator : String) : String :=
  if q.namespace.isRoot then q.name else q.namespace.join separator ++ separator ++ q.name

/-- The form in which source text refers to the name. -/
def text (q : QualifiedName) : String := q.joined "::"

/-- The form in which the name is listed. -/
def dotted (q : QualifiedName) : String := q.joined "."

instance : ToString QualifiedName := ⟨text⟩

/-- Names are ordered by namespace, then by name. -/
instance : Ord QualifiedName :=
  ⟨fun a b => (compare a.namespace b.namespace).then (compare a.name b.name)⟩

end QualifiedName

/-- The declared name that stands for no name. -/
def placeholderName : String := "$"

/-- The name of a unit, from the declared name and the suffix. -/
def deriveName (declared suffix : String) : String :=
  let base := String.ofList (declared.toList.filter fun c => !isSeparator c)
  if base = placeholderName then suffix else base ++ suffix

end PatternFactory
