import PatternFactory.Declaration.Basic
import PatternFactory.Grammar.SelfType

/-!
# Factories

For each extractor of a declaration the generated unit has a factory: a function that takes one
pattern for each component and gives a pattern for the value that the extractor takes apart.
`Declaration.factories` computes the factories; an extractor without a parameter has none.
-/

namespace PatternFactory

namespace DeclarationKind

/-- The generic parameters that all functions of the declaration share. -/
def generics : DeclarationKind → Generics
  | impl _ g => g
  | module _ => .none

/-- Puts the declared type in the place of `Self`, which would mean another type outside of the
declaration. -/
def resolve : DeclarationKind → Ty → Ty
  | impl selfTy _, t => t.resolveSelf selfTy
  | module _, t => t

/-- Puts the declared type in the place of `Self` in generic parameters and conditions. -/
def resolveGenerics : DeclarationKind → Generics → Generics
  | impl selfTy _, g => g.resolveSelf selfTy
  | module _, g => g

end DeclarationKind

/-- A factory. -/
structure Factory where
  name : String
  /-- What the extractor belongs to. -/
  kind : DeclarationKind
  /-- The name of the declaration. -/
  declaration : String
  extractor : String
  /-- The generic parameters and conditions, those for the patterns apart. -/
  generics : Generics
  /-- The type of the values that are taken apart. -/
  subject : Ty
  /-- Does the extractor take the value by reference? -/
  byReference : Bool
  /-- The types of the components. -/
  components : List Ty

/-! ### Names -/

/-- What the name of a factory leaves out of the name of its extractor. -/
def extractorPrefix : String := "unapply_"

/-- The name of an extractor without its prefix, if that leaves an identifier. -/
def shortName? (name : String) : Option String :=
  if name.startsWith extractorPrefix then
    let rest := String.ofList (name.toList.drop extractorPrefix.length)
    if isIdentifier rest then some rest else none
  else none

/-- The name of the factory for the extractor `name` among extractors of the names `all`: the short
name, unless another extractor has the same short name or has it for its name. -/
def factoryName (all : List String) (name : String) : String :=
  match shortName? name with
  | some short =>
    if all.countP (fun other => shortName? other = some short) = 1 && !all.contains short then short
    else name
  | none => name

/-- The names of the factories for extractors of the names `all`. -/
def factoryNames (all : List String) : List String := all.map (factoryName all)

/-! ### Generics -/

/-- Generic parameters, the lifetimes first. -/
def lifetimesFirst (params : List GenericParam) : List GenericParam :=
  params.filter GenericParam.isLifetime ++ params.filter fun p => !p.isLifetime

namespace Generics

/-- The parameters and conditions of both, the lifetimes first. -/
def merge (a b : Generics) : Generics :=
  .ofLists (lifetimesFirst (a.params ++ b.params)) (a.predicates ++ b.predicates)

end Generics

/-! ### From extractors to factories -/

namespace Ty

/-- The type behind a reference, or the type itself; and whether there is a reference. -/
def subject : Ty → Ty × Bool
  | reference _ _ elem => (elem, true)
  | t => (t, false)

end Ty

namespace Declaration

/-- The factory of the given name for an extractor. -/
def factory? (d : Declaration) (name : String) (m : Method) : Option Factory :=
  m.paramTypes.head?.map fun param =>
    let (subject, byReference) := (d.kind.resolve param).subject
    { name, kind := d.kind, declaration := d.name, extractor := m.name
      generics := d.kind.resolveGenerics (d.kind.generics.merge m.item.sig.generics)
      subject, byReference
      components := (m.components?.getD []).map d.kind.resolve }

/-- The names of the extractors. -/
def extractorNames (d : Declaration) : List String := d.extractors.map Method.name

/-- The factories of a declaration, in the order of its extractors. -/
def factories (d : Declaration) : List Factory :=
  d.extractors.filterMap fun m => d.factory? (factoryName d.extractorNames m.name) m

end Declaration

namespace Factory

/-- The number of components. -/
def arity (f : Factory) : Nat := f.components.length

/-- The names that `lead` begins, numbered from 1. -/
def numbered (lead : String) (count : Nat) : List String :=
  (List.range count).map fun i => lead ++ toString (i + 1)

/-- The generic parameters for the patterns. -/
def patternParams (f : Factory) : List String := numbered "P" f.arity

/-- The parameters of the factory. -/
def args (f : Factory) : List String := numbered "p" f.arity

/-- The name of the pattern type. -/
def patternType (f : Factory) : String := "Pattern" ++ toString f.arity

end Factory

end PatternFactory
