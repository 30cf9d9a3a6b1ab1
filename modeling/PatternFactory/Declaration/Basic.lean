import PatternFactory.Declaration.Discovery
import PatternFactory.Name.Qualified

/-!
# Declarations

A declaration has a name, functions, and the impl block or module that they belong to.  Of its
functions those that carry the marker of extractors take a value apart.
-/

namespace PatternFactory

/-- A function of a declaration. -/
structure Method where
  item : FnItem
  isExtractor : Bool

namespace FnParam

/-- The type of a parameter that is no receiver. -/
def ty? : FnParam → Option Ty
  | receiver _ => none
  | typed _ _ ty => some ty

/-- Is it a receiver? -/
def isReceiver : FnParam → Bool
  | receiver _ => true
  | typed .. => false

end FnParam

namespace Ty

/-- The argument of an `Option`. -/
def optionArg? : Ty → Option Ty
  | path p =>
    match p.segments.getLast? with
    | some (.mk "Option" (.angle _ [.type inner] _)) => some inner
    | _ => none
  | _ => none

/-- The elements of a tuple. -/
def tupleElems? : Ty → Option (List Ty)
  | tuple elems _ => some elems
  | _ => none

/-- Is the type a mutable reference? -/
def isMutRef : Ty → Bool
  | reference _ true _ => true
  | _ => false

end Ty

namespace Method

/-- The name of the function. -/
def name (m : Method) : String := m.item.sig.name

/-- The line of the name. -/
def line (m : Method) : Nat := m.item.sig.line

/-- Does the function begin with a receiver? -/
def hasReceiver (m : Method) : Bool := (m.item.sig.params.head?.map FnParam.isReceiver).getD false

/-- The types of the parameters, the receiver apart. -/
def paramTypes (m : Method) : List Ty := m.item.sig.params.filterMap FnParam.ty?

/-- The elements of the tuple that the function returns in an `Option`. -/
def components? (m : Method) : Option (List Ty) := do
  let ty ← m.item.sig.output
  let inner ← ty.optionArg?
  inner.tupleElems?

end Method

/-- What the functions of a declaration belong to. -/
inductive DeclarationKind where
  | impl (selfTy : Ty) (generics : Generics)
  | module (name : String)

/-- A declaration. -/
structure Declaration where
  «namespace» : Namespace
  name : String
  kind : DeclarationKind
  methods : List Method
  origin : Origin

namespace Declaration

/-- The functions that are extractors. -/
def extractors (d : Declaration) : List Method := d.methods.filter Method.isExtractor

/-- The name with the namespace in front of it. -/
def displayName (d : Declaration) : String :=
  if d.namespace.isRoot then d.name else d.namespace.text ++ "::" ++ d.name

/-- The name of the unit that belongs to the declaration. -/
def unitName (d : Declaration) (suffix : String) : QualifiedName :=
  ⟨d.namespace, deriveName d.name suffix⟩

end Declaration

namespace Ty

/-- The names of the segments of a path type. -/
def segmentNames? : Ty → Option (List String)
  | path p => some (p.segments.map Segment.name)
  | qualified _ asTrait rest =>
    some (((asTrait.map Path.segments).getD [] ++ rest).map Segment.name)
  | _ => none

/-- The name that is declared by an impl block for the type. -/
def declaredName (t : Ty) : String :=
  match t.segmentNames? with
  | some names => "::".intercalate names
  | none => String.ofList (t.text.toList.filter (· ≠ ' '))

end Ty

namespace DeclarationItem

/-- The name that the item itself declares. -/
def declaredName : DeclarationItem → String
  | impl i => i.selfTy.declaredName
  | module name _ => name

/-- The functions directly inside of the item. -/
def functions : DeclarationItem → List FnItem
  | impl i => i.members.filterMap fun
    | .fn f => some f
    | .other _ => none
  | module _ content => content.filterMap fun
    | .fn f => some f
    | _ => none

/-- What the functions of the item belong to. -/
def kind : DeclarationItem → DeclarationKind
  | impl i => .impl i.selfTy i.generics
  | module name _ => .module name

end DeclarationItem

/-- The declaration that a marked item makes. -/
def MarkedDeclaration.declaration (m : Markers) (d : MarkedDeclaration) : Declaration where
  «namespace» := d.namespace
  name := d.nameOverride.getD d.item.declaredName
  kind := d.item.kind
  methods := d.item.functions.map fun f => ⟨f, m.onExtractor f.attrs⟩
  origin := d.origin

end PatternFactory
